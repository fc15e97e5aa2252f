import AdaptiveQuiz.Proofs.Numeric.Rounding
import Mathlib.Tactic.SplitIfs

/-!
# How far rounding goes

A rounded quotient is near to the exact one, and so is a count of units that is rounded to 53
significant bits: up to one, the error is less than a unit in the 52nd binary place. Hence a step
that can be noticed at all, taken from a double between zero and one, does not end up on the wrong
side of it, even if the outcome is cut off at zero and one and then rounded to four decimal places.

## Main definitions

* `Binary64.IsStep`: a double that is neither too small to survive rounding nor larger than one
* `Binary64.clamped`: a double cut off at zero and one, and rounded to four places

## Main statements

* `Binary64.roundQuotient_near`, `Binary64.roundUnits_near`: errors of rounding
* `Binary64.atMost_clamped_add`, `Binary64.clamped_sub_atMost`: steps up and down
-/

namespace AdaptiveQuiz.Binary64

/-! ## Errors of rounding -/

/-- Rounded and exact quotient are not more than one apart. -/
theorem roundQuotient_near {num den : Nat} (hden : 0 < den) :
    den * roundQuotient num den ≤ num + den ∧ num ≤ den * roundQuotient num den + den := by
  have hsplit := Nat.div_add_mod num den
  have hrest := Nat.mod_lt num hden
  have hup : den * (num / den + 1) = den * (num / den) + den := Nat.mul_succ ..
  simp only [roundQuotient]
  split_ifs
  · omega
  · rw [hup]
    omega
  · omega
  · rw [hup]
    omega

theorem excessBits_add_le {n bits : Nat} (h : n ≤ 2 ^ (bits + 52)) : excessBits n ≤ bits := by
  have hlog := log2_le_of_le h
  unfold excessBits
  omega

/-- Of a count below a power of two, the bits in front of the last 52 ones are kept. -/
theorem roundUnits_near {num den bits : Nat} (hden : 0 < den) (h : num ≤ den * 2 ^ (bits + 52)) :
    den * roundUnits num den ≤ num + den * 2 ^ bits
      ∧ num ≤ den * roundUnits num den + den * 2 ^ bits := by
  have hexcess : excessBits (num / den) ≤ bits :=
    excessBits_add_le (Nat.div_le_of_le_mul h)
  have hpow : 2 ^ excessBits (num / den) ≤ 2 ^ bits := Nat.pow_le_pow_right Nat.two_pos hexcess
  simp only [roundUnits]
  generalize excessBits (num / den) = excess at hpow
  have hcoarse : 0 < den * 2 ^ excess := Nat.mul_pos hden (Nat.two_pow_pos excess)
  have hnear := @roundQuotient_near num _ hcoarse
  have herror : den * 2 ^ excess ≤ den * 2 ^ bits := Nat.mul_le_mul_left den hpow
  have hassoc : den * (roundQuotient num (den * 2 ^ excess) * 2 ^ excess)
      = den * 2 ^ excess * roundQuotient num (den * 2 ^ excess) := by
    rw [Nat.mul_comm (roundQuotient _ _), Nat.mul_assoc]
  show den * (roundQuotient num (den * 2 ^ excess) * 2 ^ excess) ≤ _
    ∧ _ ≤ den * (roundQuotient num (den * 2 ^ excess) * 2 ^ excess) + _
  rw [hassoc]
  omega

/-! ## Rounding to decimal places

What can be noticed is said in units. One is a power of two of them, so it is a multiple of what
rounding to 53 significant bits may add up to one. The exponent is named, so that nothing is
computed with it. -/

theorem exists_unit_eq_fine : ∃ fine, fine = 1022 ∧ unit = 2 ^ (fine + 52) := by
  obtain ⟨bits, hbits, hunit⟩ := exists_unit_eq
  refine ⟨bits - 52, by omega, ?_⟩
  rw [hunit, Nat.sub_add_cancel (by omega)]

/-- Up to one, rounding to four decimal places moves a double by a ten-thousandth, and what rounding
the outcome to a double adds. -/
theorem roundPlaces_near {units fine : Nat} (hfine : fine = 1022) (hunit : unit = 2 ^ (fine + 52))
    (h : units ≤ unit) : ∃ rounded, roundPlaces 4 (.finite false units) = .finite false rounded
      ∧ 10000 * units ≤ 10000 * rounded + unit + 10000 * 2 ^ fine
      ∧ 10000 * rounded ≤ 10000 * units + unit + 10000 * 2 ^ fine := by
  have hquotient := @roundQuotient_near (units * 10000) unit unit_pos
  have hbound : roundQuotient (units * 10000) unit ≤ 10000 :=
    roundQuotient_le unit_pos (Nat.mul_le_mul_right _ h)
  have hscaled : roundQuotient (units * 10000) unit * unit ≤ 10000 * 2 ^ (fine + 52) := by
    rw [← hunit]
    exact Nat.mul_le_mul_right _ hbound
  have hnear := roundUnits_near (by decide) hscaled
  have hplaces : Nat.pow 10 4 = 10000 := rfl
  refine ⟨roundUnits (roundQuotient (units * 10000) unit * unit) 10000, ?_, ?_⟩
  · rw [roundPlaces, hplaces]
    exact ofRatio_of_le false (by decide) hscaled (by omega)
  · rw [Nat.mul_comm unit] at hquotient
    omega

/-! ## Steps -/

/-- A double that is neither too small to survive rounding nor larger than one. -/
def IsStep (x : Binary64) : Prop :=
  ∃ units, x = .finite false units ∧ unit ≤ 32 * units ∧ units ≤ unit

instance (x : Binary64) : Decidable x.IsStep :=
  match x with
  | .finite false units =>
    decidable_of_iff (unit ≤ 32 * units ∧ units ≤ unit) (by simp [IsStep])
  | .finite true _ | .infinity _ | .nan => isFalse (by simp [IsStep])

/-- A double between zero and one is a count of units. If it has a sign, the sign does not matter. -/
theorem InUnit.exists_units {x : Binary64} (h : InUnit x) : ∃ negative units,
    x = .finite negative units ∧ units ≤ unit ∧ signedUnits negative units = units := by
  obtain ⟨hlow, hhigh⟩ := h
  cases x with
  | nan => cases hlow
  | infinity negative =>
    cases negative with
    | false => cases hhigh
    | true => cases hlow
  | finite negative units =>
    have hnonneg : (0 : Int) ≤ signedUnits negative units := of_decide_eq_true hlow
    have hle : signedUnits negative units ≤ (unit : Int) := of_decide_eq_true hhigh
    have hsigned : signedUnits negative units = units := by
      cases negative with
      | false => rfl
      | true =>
        have hneg : signedUnits true units = -(units : Int) := rfl
        omega
    exact ⟨negative, units, rfl, by omega, hsigned⟩

/-- A double cut off at zero and one, and rounded to four decimal places. -/
def clamped (x : Binary64) : Binary64 := (min .one (max .zero x)).roundPlaces 4

theorem clamped_zero (negative : Bool) : clamped (.finite negative 0) = .zero := by
  cases negative <;> decide +kernel

theorem clamped_of_negative {x : Binary64}
    (h : (∃ units, x = .finite true units) ∨ x = .infinity true) : clamped x = .zero := by
  rw [clamped, max_zero_of_negative h]
  decide +kernel

theorem less_finite {units units' : Nat} :
    less (.finite false units) (.finite false units') = true ↔ units < units' := by
  rw [less, decide_eq_true_iff]
  exact Int.ofNat_lt

theorem max_zero_finite (units : Nat) :
    max .zero (.finite false units) = .finite false units := by
  unfold max
  split
  · rfl
  · next hless =>
    obtain rfl : units = 0 := Nat.eq_zero_of_not_pos fun hpos => hless (less_finite.mpr hpos)
    rfl

theorem clamped_of_le {units : Nat} (h : units ≤ unit) :
    clamped (.finite false units) = (finite false units).roundPlaces 4 := by
  rw [clamped, max_zero_finite, min]
  split
  · rfl
  · next hless =>
    have hge : unit ≤ units := Nat.le_of_not_lt fun hlt => hless (less_finite.mpr hlt)
    rw [one, Nat.le_antisymm hge h]

theorem clamped_of_ge {units : Nat} (h : unit ≤ units) : clamped (.finite false units) = .one := by
  have hless : ¬ less (.finite false units) .one = true := fun hless =>
    Nat.not_lt_of_le h (less_finite.mp hless)
  rw [clamped, max_zero_finite, min, if_neg hless]
  decide +kernel

/-! The errors of rounding up to one are small against one, and so against a step. -/

/-- Of two counts, of which one is a step above the other up to an error of the sum, the larger one
is not rounded below the smaller one. -/
theorem le_rounded {small large step rounded fine : Nat} (hunit : unit = 2 ^ (fine + 52))
    (hstep : unit ≤ 32 * step) (hlarge : small + step ≤ large + 2 ^ (fine + 1))
    (hrounded : 10000 * large ≤ 10000 * rounded + unit + 10000 * 2 ^ fine) : small ≤ rounded := by
  have hpos := Nat.two_pow_pos fine
  have hsplit : 2 ^ (fine + 52) = 2 ^ fine * 4503599627370496 := Nat.pow_add ..
  have hdouble : 2 ^ (fine + 1) = 2 ^ fine * 2 := Nat.pow_succ ..
  omega

/-- Nor is the smaller one rounded above the larger one. -/
theorem rounded_le {small large step rounded fine : Nat} (hunit : unit = 2 ^ (fine + 52))
    (hstep : unit ≤ 32 * step) (hsmall : small + step ≤ large + 2 ^ fine)
    (hrounded : 10000 * rounded ≤ 10000 * small + unit + 10000 * 2 ^ fine) : rounded ≤ large := by
  have hpos := Nat.two_pow_pos fine
  have hsplit : 2 ^ (fine + 52) = 2 ^ fine * 4503599627370496 := Nat.pow_add ..
  omega

theorem atMost_finite {negative negative' : Bool} {units units' : Nat}
    (h : signedUnits negative units = units) (h' : signedUnits negative' units' = units') :
    atMost (.finite negative units) (.finite negative' units') = true ↔ units ≤ units' := by
  rw [atMost, decide_eq_true_iff, h, h']
  exact Int.ofNat_le

/-- A step up does not lead down. -/
theorem atMost_clamped_add {before step : Binary64} (hbefore : before.InUnit)
    (hstep : step.IsStep) : atMost before (clamped (before.add step)) = true := by
  obtain ⟨negative, b, rfl, hb, hsigned⟩ := hbefore.exists_units
  obtain ⟨s, rfl, hlow, hhigh⟩ := hstep
  obtain ⟨fine, hfine, hunit⟩ := exists_unit_eq_fine
  have hpos := unit_pos
  -- the sum is below two, so its error is twice that of a number up to one
  have hbound : b + s ≤ 1 * 2 ^ (fine + 1 + 52) := by
    have hdouble : 2 ^ (fine + 1 + 52) = 2 ^ (fine + 52) * 2 := by
      rw [Nat.add_right_comm, Nat.pow_succ]
    omega
  have hsum : (Binary64.finite negative b).add (.finite false s)
      = .finite false (roundUnits (b + s) 1) := by
    have hne : (b : Int) + s ≠ 0 := by omega
    have hpositive : ¬ (b : Int) + s < 0 := by omega
    have habs : ((b : Int) + s).natAbs = b + s := by omega
    have hs : signedUnits false s = s := rfl
    rw [add, hsigned, hs, ofSignedUnits, if_neg hne, decide_eq_false hpositive, habs]
    exact ofRatio_of_le false Nat.one_pos hbound (by omega)
  obtain ⟨-, hnear⟩ := roundUnits_near Nat.one_pos hbound
  rw [hsum]
  by_cases hle : roundUnits (b + s) 1 ≤ unit
  · obtain ⟨rounded, hrounded, hlower, -⟩ := roundPlaces_near hfine hunit hle
    rw [clamped_of_le hle, hrounded, atMost_finite hsigned rfl]
    refine le_rounded hunit hlow ?_ hlower
    omega
  · rw [clamped_of_ge (by omega)]
    exact (atMost_finite hsigned rfl).mpr hb

/-- A step down does not lead up. -/
theorem clamped_sub_atMost {before step : Binary64} (hbefore : before.InUnit)
    (hstep : step.IsStep) : atMost (clamped (before.sub step)) before = true := by
  obtain ⟨negative, b, rfl, hb, hsigned⟩ := hbefore.exists_units
  obtain ⟨s, rfl, hlow, hhigh⟩ := hstep
  obtain ⟨fine, hfine, hunit⟩ := exists_unit_eq_fine
  have hsub : (Binary64.finite negative b).sub (.finite false s)
      = ofSignedUnits (negative && true) ((b : Int) + -(s : Int)) := by
    rw [sub, neg, add, hsigned]
    rfl
  have hzero : atMost .zero (.finite negative b) = true := (atMost_finite rfl hsigned).mpr b.zero_le
  rw [hsub, ofSignedUnits]
  by_cases heq : (b : Int) + -(s : Int) = 0
  · -- nothing is left, with either sign
    rw [if_pos heq, clamped_zero]
    exact hzero
  · rw [if_neg heq]
    by_cases hnegative : (b : Int) + -(s : Int) < 0
    · rw [decide_eq_true hnegative, clamped_of_negative (ofRatio_cases true _ _)]
      exact hzero
    · have habs : ((b : Int) + -(s : Int)).natAbs = b - s := by omega
      have hbound : b - s ≤ 1 * 2 ^ (fine + 52) := by omega
      have hle : roundUnits (b - s) 1 ≤ unit := by
        rw [hunit]
        exact roundUnits_le Nat.one_pos hbound
      obtain ⟨hnear, -⟩ := roundUnits_near Nat.one_pos hbound
      obtain ⟨rounded, hrounded, -, hupper⟩ := roundPlaces_near hfine hunit hle
      rw [decide_eq_false hnegative, habs, ofRatio_of_le false Nat.one_pos hbound (by omega),
        clamped_of_le hle, hrounded, atMost_finite rfl hsigned]
      refine rounded_le hunit hlow ?_ hupper
      omega

end AdaptiveQuiz.Binary64
