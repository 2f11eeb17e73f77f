import Clearance.Binary64
import Mathlib.Algebra.Order.Field.Power
import Mathlib.Data.Rat.Cast.Order
import Mathlib.Tactic.FieldSimp
import Mathlib.Tactic.Linarith
import Mathlib.Tactic.NormNum.Pow
import Mathlib.Tactic.Ring

/-!
# Rounding to the nearest word

A finite number other than zero owns an interval of the rationals: what lies between the middles to
its two neighbours.  Every quotient in that interval, however it is written, is rounded to that
number.
-/

namespace Clearance.Binary64

/-- The mantissa and the exponent of a finite word. -/
structure Canonical (mantissa : Nat) (exponent : Int) : Prop where
  least : -1074 ≤ exponent
  greatest : exponent ≤ 971
  bounded : mantissa < 2 ^ 53
  full : 2 ^ 52 ≤ mantissa ∨ exponent = -1074

/-- The word of a mantissa and an exponent. -/
def wordOf (mantissa : Nat) (exponent : Int) : Nat :=
  (exponent + 1074).toNat * 2 ^ 52 + mantissa

/-- The quarters of the last bit from a number down to the middle between it and the one below. -/
def quartersBelow (mantissa : Nat) (exponent : Int) : Nat :=
  if mantissa = 2 ^ 52 && decide (-1074 < exponent) then 1 else 2

/-- The rationals nearest to a number; the ends of the interval go to the even neighbour. -/
structure Near (mantissa : Nat) (exponent : Int) (q : Rat) : Prop where
  low : (4 * mantissa - quartersBelow mantissa exponent) * (2 : Rat) ^ (exponent - 2) ≤ q
  high : q ≤ (4 * mantissa + 2) * (2 : Rat) ^ (exponent - 2)
  strict : mantissa % 2 = 1 ->
    (4 * mantissa - quartersBelow mantissa exponent) * (2 : Rat) ^ (exponent - 2) < q ∧
      q < (4 * mantissa + 2) * (2 : Rat) ^ (exponent - 2)

theorem finite_of_magnitude {x : Binary64} {mantissa : Nat} {exponent : Int}
    (h : x.magnitude = .finite mantissa exponent) :
    Canonical mantissa exponent ∧ wordOf mantissa exponent = x.magnitudeWord := by
  have hword : x.magnitudeWord < 2 ^ 63 := Nat.mod_lt _ (by decide)
  unfold magnitude at h
  simp only [Nat.pow_eq] at h
  have hdiv := Nat.div_add_mod x.magnitudeWord (2 ^ 52)
  have hfield : x.magnitudeWord / 2 ^ 52 < 2048 := by omega
  have hfraction : x.magnitudeWord % 2 ^ 52 < 2 ^ 52 := Nat.mod_lt _ (by decide)
  split at h
  · split at h <;> cases h
  · split at h
    · obtain ⟨rfl, rfl⟩ := Magnitude.finite.inj h
      refine ⟨⟨by omega, by omega, by omega, .inr rfl⟩, ?_⟩
      simp only [wordOf]
      omega
    · obtain ⟨rfl, rfl⟩ := Magnitude.finite.inj h
      refine ⟨⟨by omega, by omega, by omega, .inl (by omega)⟩, ?_⟩
      simp only [wordOf]
      omega

theorem exists_magnitude_of_isFinite {x : Binary64} (h : x.isFinite = true) :
    ∃ mantissa exponent, x.magnitude = .finite mantissa exponent := by
  have hlt : x.magnitudeWord < 2047 * 2 ^ 52 := of_decide_eq_true h
  unfold magnitude
  simp only [Nat.pow_eq]
  rw [if_neg (by omega)]
  split <;> exact ⟨_, _, rfl⟩

theorem ofWord_magnitudeWord (x : Binary64) : ofWord x.isNegative x.magnitudeWord = x := by
  obtain ⟨bits⟩ := x
  have hbits : bits.toNat < 2 ^ 64 := bits.toNat_lt
  simp only [ofWord, isNegative, magnitudeWord, signWeight, Nat.pow_eq, mk.injEq]
  refine UInt64.toNat_inj.1 ?_
  rw [UInt64.toNat_ofNat']
  by_cases h : 2 ^ 63 ≤ bits.toNat
  · simp only [h, decide_true, if_true]
    omega
  · simp only [h, decide_false, Bool.false_eq_true, if_false]
    omega

/-! ## Rounding a quotient -/

/-- A quotient within half of a whole number is rounded to it, and at a half if it is even. -/
theorem roundDiv_eq {n d k : Nat} (hd : 0 < d) (hlow : 2 * (k * d) ≤ 2 * n + d)
    (hhigh : 2 * n ≤ 2 * (k * d) + d)
    (hstrict : k % 2 = 1 -> 2 * (k * d) < 2 * n + d ∧ 2 * n < 2 * (k * d) + d) :
    roundDiv n d = k := by
  have hn : d * (n / d) + n % d = n := Nat.div_add_mod n d
  have hrest : n % d < d := Nat.mod_lt _ hd
  unfold roundDiv
  generalize n / d = q at hn
  have hupper : k ≤ q + 1 := by
    by_contra hlt
    have hmul : (q + 2) * d ≤ k * d := Nat.mul_le_mul_right d (by omega)
    rw [Nat.add_mul, Nat.mul_comm q] at hmul
    omega
  have hlower : q ≤ k := by
    by_contra hlt
    have hmul : (k + 1) * d ≤ q * d := Nat.mul_le_mul_right d (by omega)
    rw [Nat.add_mul, Nat.mul_comm q] at hmul
    omega
  obtain rfl | rfl : k = q ∨ k = q + 1 := by omega
  · have hcomm : k * d = d * k := Nat.mul_comm _ _
    rw [hcomm] at hlow hhigh hstrict
    dsimp only
    split
    · rfl
    · split
      · omega
      · have heven : k % 2 ≠ 1 := fun hodd => by
          have := hstrict hodd
          omega
        omega
  · have hcomm : (q + 1) * d = d * q + d := by rw [Nat.add_mul, Nat.mul_comm q, Nat.one_mul]
    rw [hcomm] at hlow hhigh hstrict
    dsimp only
    split
    · omega
    · split
      · rfl
      · have heven : (q + 1) % 2 ≠ 1 := fun hodd => by
          have := hstrict hodd
          omega
        omega

/-! ## The exponent of a quotient -/

theorem scaled_spec {num den : Nat} (hden : 0 < den) (exponent : Int) :
    0 < (scaled num den exponent).2 ∧
      ((scaled num den exponent).1 : Rat) / (scaled num den exponent).2 =
        (num : Rat) / den / 2 ^ exponent := by
  unfold scaled
  simp only [Nat.pow_eq]
  split
  · rename_i h
    obtain ⟨k, rfl⟩ : ∃ k : Nat, exponent = -k := ⟨exponent.natAbs, by omega⟩
    refine ⟨hden, ?_⟩
    rw [Int.natAbs_neg, Int.natAbs_natCast, zpow_neg, zpow_natCast]
    push_cast
    field_simp
  · rename_i h
    obtain ⟨k, rfl⟩ : ∃ k : Nat, exponent = k := ⟨exponent.natAbs, by omega⟩
    refine ⟨by positivity, ?_⟩
    rw [Int.natAbs_natCast, zpow_natCast]
    push_cast
    field_simp

theorem two_zpow_mul (a b : Int) : (2 : Rat) ^ a * 2 ^ b = 2 ^ (a + b) :=
  (zpow_add₀ (by norm_num) a b).symm

theorem two_zpow_le {a b : Int} (h : a ≤ b) : (2 : Rat) ^ a ≤ 2 ^ b :=
  zpow_le_zpow_right₀ (by norm_num) h

/-- The quotient of two numbers lies within a factor of two of that of their leading powers. -/
theorem quotient_bounds {num den : Nat} (hnum : 0 < num) (hden : 0 < den) :
    (2 : Rat) ^ ((Nat.log2 num : Int) - Nat.log2 den - 1) < (num : Rat) / den ∧
      (num : Rat) / den < (2 : Rat) ^ ((Nat.log2 num : Int) - Nat.log2 den + 1) := by
  have hnumlow : (2 : Rat) ^ (Nat.log2 num : Int) ≤ num := by
    exact_mod_cast Nat.log2_self_le (by omega)
  have hnumhigh : (num : Rat) < 2 ^ ((Nat.log2 num : Int) + 1) := by
    exact_mod_cast Nat.lt_log2_self
  have hdenlow : (2 : Rat) ^ (Nat.log2 den : Int) ≤ den := by
    exact_mod_cast Nat.log2_self_le (by omega)
  have hdenhigh : (den : Rat) < 2 ^ ((Nat.log2 den : Int) + 1) := by
    exact_mod_cast Nat.lt_log2_self
  have hpos : (0 : Rat) < den := Nat.cast_pos.2 hden
  generalize (Nat.log2 num : Int) = a at *
  generalize (Nat.log2 den : Int) = b at *
  constructor
  · rw [lt_div_iff₀ hpos]
    calc (2 : Rat) ^ (a - b - 1) * den
        < 2 ^ (a - b - 1) * 2 ^ (b + 1) := by gcongr
      _ = 2 ^ a := by rw [two_zpow_mul]; congr 1; ring
      _ ≤ num := hnumlow
  · rw [div_lt_iff₀ hpos]
    calc (num : Rat) < 2 ^ (a + 1) := hnumhigh
      _ = 2 ^ (a - b + 1) * 2 ^ b := by rw [two_zpow_mul]; congr 1; ring
      _ ≤ 2 ^ (a - b + 1) * den := by gcongr

/-- The exponent with which a quotient is rounded. -/
def roundingExponent (num den : Nat) : Int :=
  let guess : Int := max ((Nat.log2 num : Int) - Nat.log2 den - 53) (-1074)
  if 2 ^ 53 * (scaled num den guess).2 ≤ (scaled num den guess).1 then guess + 1 else guess

theorem nearestWord_eq_roundDiv {num : Nat} (hnum : 0 < num) (den : Nat) :
    nearestWord num den =
      min ((roundingExponent num den + 1074).toNat * 2 ^ 52 +
        roundDiv (scaled num den (roundingExponent num den)).1
          (scaled num den (roundingExponent num den)).2) infinityWord := by
  unfold nearestWord roundingExponent
  rw [if_neg (by omega)]
  rfl

theorem le_scaled_iff {num den : Nat} (hden : 0 < den) (exponent : Int) (k : Nat) :
    k * (scaled num den exponent).2 ≤ (scaled num den exponent).1 ↔
      (k : Rat) * 2 ^ exponent ≤ (num : Rat) / den := by
  obtain ⟨hpos, hscaled⟩ := @scaled_spec num den hden exponent
  have hpow : (0 : Rat) < 2 ^ exponent := by positivity
  have hpos' : (0 : Rat) < (scaled num den exponent).2 := Nat.cast_pos.2 hpos
  rw [← le_div_iff₀ hpow, ← hscaled, le_div_iff₀ hpos']
  exact_mod_cast Iff.rfl

/-- At its exponent a quotient has 53 bits, or the exponent is the least one there is. -/
theorem roundingExponent_spec {num den : Nat} (hnum : 0 < num) (hden : 0 < den) :
    -1074 ≤ roundingExponent num den ∧
      (num : Rat) / den < 2 ^ (roundingExponent num den + 53) ∧
      (2 ^ (roundingExponent num den + 52) ≤ (num : Rat) / den ∨
        roundingExponent num den = -1074) := by
  obtain ⟨hlow, hhigh⟩ := quotient_bounds hnum hden
  unfold roundingExponent
  generalize (Nat.log2 num : Int) - Nat.log2 den = l at *
  have hfits : 2 ^ 53 * (scaled num den (max (l - 53) (-1074))).2 ≤
      (scaled num den (max (l - 53) (-1074))).1 ↔
        (2 : Rat) ^ (max (l - 53) (-1074) + 53) ≤ (num : Rat) / den := by
    rw [le_scaled_iff hden, ← two_zpow_mul, mul_comm]
    norm_num
  dsimp only
  split
  · rename_i h
    have hle := hfits.1 h
    -- The quotient reaches the guessed power of two, so the guess is not the least exponent.
    have hlt : max (l - 53) (-1074) + 53 < l + 1 :=
      (zpow_lt_zpow_iff_right₀ (by norm_num : (1 : Rat) < 2)).1 (hle.trans_lt hhigh)
    refine ⟨by omega, hhigh.trans_le (two_zpow_le (by omega)), .inl ?_⟩
    exact (two_zpow_le (by omega)).trans hle
  · rename_i h
    refine ⟨by omega, not_le.1 fun hle => h (hfits.2 hle), ?_⟩
    by_cases hguess : -1074 ≤ l - 53
    · exact .inl ((two_zpow_le (by omega)).trans hlow.le)
    · exact .inr (by omega)

/-! ## The interval of a number -/

theorem quartersBelow_le_two (mantissa : Nat) (exponent : Int) :
    quartersBelow mantissa exponent ≤ 2 := by
  unfold quartersBelow
  split <;> omega

theorem quartersBelow_pos (mantissa : Nat) (exponent : Int) :
    1 ≤ quartersBelow mantissa exponent := by
  unfold quartersBelow
  split <;> omega

theorem roundDiv_scaled_eq {num den k : Nat} {exponent : Int} (hden : 0 < den)
    (hlow : (4 * k - 2) * (2 : Rat) ^ (exponent - 2) ≤ (num : Rat) / den)
    (hhigh : (num : Rat) / den ≤ (4 * k + 2) * (2 : Rat) ^ (exponent - 2))
    (hstrict : k % 2 = 1 -> (4 * k - 2) * (2 : Rat) ^ (exponent - 2) < (num : Rat) / den ∧
      (num : Rat) / den < (4 * k + 2) * (2 : Rat) ^ (exponent - 2)) :
    roundDiv (scaled num den exponent).1 (scaled num den exponent).2 = k := by
  obtain ⟨hpos, hscaled⟩ := @scaled_spec num den hden exponent
  have hpow : (0 : Rat) < 2 ^ (exponent - 2) := by positivity
  have hpos' : (0 : Rat) < (scaled num den exponent).2 := Nat.cast_pos.2 hpos
  have hquotient : (num : Rat) / den =
      ((scaled num den exponent).1 : Rat) / (scaled num den exponent).2 * 4 *
        2 ^ (exponent - 2) := by
    rw [hscaled, mul_assoc, show (4 : Rat) = 2 ^ (2 : Int) by norm_num, two_zpow_mul]
    have hexponent : (2 : Int) + (exponent - 2) = exponent := by ring
    rw [hexponent, div_mul_cancel₀ _ (by positivity)]
  rw [hquotient] at hlow hhigh hstrict
  simp only [mul_le_mul_iff_left₀ hpow, mul_lt_mul_iff_left₀ hpow] at hlow hhigh hstrict
  generalize (scaled num den exponent).1 = n at *
  generalize (scaled num den exponent).2 = d at *
  have hdiv : (n : Rat) = n / d * d := by field_simp
  refine roundDiv_eq hpos ?_ ?_ fun hodd => ?_
  · have hmul := mul_le_mul_of_nonneg_right hlow hpos'.le
    have hcast : ((2 * (k * d) : Nat) : Rat) ≤ ((2 * n + d : Nat) : Rat) := by
      push_cast
      linarith
    exact_mod_cast hcast
  · have hmul := mul_le_mul_of_nonneg_right hhigh hpos'.le
    have hcast : ((2 * n : Nat) : Rat) ≤ ((2 * (k * d) + d : Nat) : Rat) := by
      push_cast
      linarith
    exact_mod_cast hcast
  · have hleft := mul_lt_mul_of_pos_right (hstrict hodd).1 hpos'
    have hright := mul_lt_mul_of_pos_right (hstrict hodd).2 hpos'
    constructor
    · have hcast : ((2 * (k * d) : Nat) : Rat) < ((2 * n + d : Nat) : Rat) := by
        push_cast
        linarith
      exact_mod_cast hcast
    · have hcast : ((2 * n : Nat) : Rat) < ((2 * (k * d) + d : Nat) : Rat) := by
        push_cast
        linarith
      exact_mod_cast hcast

theorem wordOf_lt_infinityWord {mantissa : Nat} {exponent : Int}
    (h : Canonical mantissa exponent) : wordOf mantissa exponent < infinityWord := by
  have hleast := h.least
  have hgreatest := h.greatest
  have hbounded := h.bounded
  simp only [wordOf, infinityWord, Nat.pow_eq]
  omega

section

variable {mantissa : Nat} {exponent rounding : Int} {q : Rat}

/-- A rational with a lower exponent than the number it is near to is just below a power of two. -/
theorem Near.eq_of_exponent_lt (h : Near mantissa exponent q) (hcanonical : Canonical mantissa exponent)
    (hleast : -1074 ≤ rounding) (hbelow : q < 2 ^ (rounding + 53)) (hlt : rounding < exponent) :
    mantissa = 2 ^ 52 ∧ exponent = rounding + 1 ∧
      (4 * 2 ^ 52 - 1) * (2 : Rat) ^ (exponent - 2) ≤ q ∧ q < 2 ^ 54 * 2 ^ (exponent - 2) := by
  have hpow : (0 : Rat) < 2 ^ (exponent - 2) := by positivity
  have hquarters : ((quartersBelow mantissa exponent : Nat) : Rat) ≤ 2 := by
    exact_mod_cast quartersBelow_le_two mantissa exponent
  have hle : 2 ^ 52 ≤ mantissa := hcanonical.full.resolve_right (by omega)
  have habove : q < 2 ^ 54 * 2 ^ (exponent - 2) := by
    have hexponent := two_zpow_le (show rounding + 53 ≤ 54 + (exponent - 2) by omega)
    refine hbelow.trans_le (hexponent.trans_eq ?_)
    rw [← two_zpow_mul]
    norm_num
  have hquotient := (mul_lt_mul_iff_left₀ hpow).1 (h.low.trans_lt habove)
  obtain rfl : mantissa = 2 ^ 52 := by
    by_contra hne
    have hcast : ((2 ^ 52 + 1 : Nat) : Rat) ≤ mantissa := Nat.cast_le.2 (by omega)
    push_cast at hcast
    linarith
  have hquarter : quartersBelow (2 ^ 52) exponent = 1 := by
    have : -1074 < exponent := by omega
    simp [quartersBelow, this]
  have hlow := h.low
  rw [hquarter] at hlow
  push_cast at hlow
  have hreach : (2 : Rat) ^ (exponent + 51) < 2 ^ (rounding + 53) := by
    refine lt_of_le_of_lt (le_trans ?_ hlow) hbelow
    rw [show exponent + 51 = 53 + (exponent - 2) by ring, ← two_zpow_mul]
    gcongr
    norm_num
  have hexponent := (zpow_lt_zpow_iff_right₀ (by norm_num : (1 : Rat) < 2)).1 hreach
  exact ⟨rfl, by omega, hlow, habove⟩

/-- A rational does not have a greater exponent than the number it is near to. -/
theorem Near.exponent_le (h : Near mantissa exponent q) (hcanonical : Canonical mantissa exponent)
    (hfull : 2 ^ (rounding + 52) ≤ q ∨ rounding = -1074) : rounding ≤ exponent := by
  have hpow : (0 : Rat) < 2 ^ (exponent - 2) := by positivity
  have hleast := hcanonical.least
  by_contra hgt
  have hreach := hfull.resolve_right (by omega)
  have hpower : (2 : Rat) ^ 55 * 2 ^ (exponent - 2) ≤ 2 ^ (rounding + 52) := by
    have hexponent := two_zpow_le (show 55 + (exponent - 2) ≤ rounding + 52 by omega)
    refine le_trans (le_of_eq ?_) hexponent
    rw [← two_zpow_mul]
    norm_num
  have hquotient := (mul_le_mul_iff_left₀ hpow).1 (hpower.trans (hreach.trans h.high))
  have hcast : ((mantissa + 1 : Nat) : Rat) ≤ ((2 ^ 53 : Nat) : Rat) :=
    Nat.cast_le.2 hcanonical.bounded
  push_cast at hcast
  linarith

end

/-- What is just below a power of two is rounded up to the power. -/
theorem roundDiv_below_power {num den : Nat} {rounding : Int} (hden : 0 < den)
    (hlow : (4 * 2 ^ 52 - 1) * (2 : Rat) ^ (rounding + 1 - 2) ≤ (num : Rat) / den)
    (habove : (num : Rat) / den < 2 ^ 54 * 2 ^ (rounding + 1 - 2)) :
    roundDiv (scaled num den rounding).1 (scaled num den rounding).2 = 2 ^ 53 := by
  have hhalf : (2 : Rat) ^ (rounding + 1 - 2) = 2 * 2 ^ (rounding - 2) := by
    rw [show rounding + 1 - 2 = 1 + (rounding - 2) by ring, ← two_zpow_mul]
    norm_num
  have hpos : (0 : Rat) < 2 ^ (rounding - 2) := by positivity
  rw [hhalf] at hlow habove
  refine roundDiv_scaled_eq hden ?_ ?_ fun hodd => ?_
  · push_cast
    linarith
  · push_cast
    linarith
  · omega

/-- Every quotient in the interval of a number is rounded to the number. -/
theorem nearestWord_eq {mantissa num den : Nat} {exponent : Int}
    (hcanonical : Canonical mantissa exponent) (hnum : 0 < num) (hden : 0 < den)
    (h : Near mantissa exponent ((num : Rat) / den)) :
    nearestWord num den = wordOf mantissa exponent := by
  obtain ⟨hleast, hbelow, hfull⟩ := roundingExponent_spec hnum hden
  have hword := wordOf_lt_infinityWord hcanonical
  rw [nearestWord_eq_roundDiv hnum]
  generalize roundingExponent num den = rounding at *
  rcases (h.exponent_le hcanonical hfull).lt_or_eq with hlt | rfl
  · obtain ⟨rfl, rfl, hlow, habove⟩ := h.eq_of_exponent_lt hcanonical hleast hbelow hlt
    have hsame : (rounding + 1074).toNat * 2 ^ 52 + 2 ^ 53 = wordOf (2 ^ 52) (rounding + 1) := by
      simp only [wordOf]
      omega
    rw [roundDiv_below_power hden hlow habove, hsame]
    exact min_eq_left hword.le
  · have hquarters : ((quartersBelow mantissa rounding : Nat) : Rat) ≤ 2 := by
      exact_mod_cast quartersBelow_le_two mantissa rounding
    have hround : roundDiv (scaled num den rounding).1 (scaled num den rounding).2 = mantissa := by
      refine roundDiv_scaled_eq hden ?_ h.high fun hodd => ⟨?_, (h.strict hodd).2⟩
      · exact le_trans (by gcongr) h.low
      · exact lt_of_le_of_lt (by gcongr) (h.strict hodd).1
    rw [hround]
    exact min_eq_left hword.le

/-! ## Rounding a decimal -/

theorem decimalLength_bounds {digits : Nat} (h : 0 < digits) :
    (10 : Rat) ^ ((decimalLength digits : Int) - 1) ≤ digits ∧
      (digits : Rat) < 10 ^ (decimalLength digits : Int) := by
  have hpos : 0 < decimalLength digits := Nat.length_toDigits_pos
  constructor
  · obtain ⟨k, hk⟩ := Nat.exists_eq_succ_of_ne_zero hpos.ne'
    have hle : 10 ^ k ≤ digits := by
      by_contra hlt
      obtain rfl | hk' := Nat.eq_zero_or_pos k
      · omega
      · have := (Nat.length_toDigits_le_iff (by decide) hk').2 (not_le.1 hlt)
        unfold decimalLength at hk
        omega
    rw [hk]
    push_cast
    rw [add_sub_cancel_right]
    exact_mod_cast hle
  · have hlt : digits < 10 ^ decimalLength digits :=
      (Nat.length_toDigits_le_iff (by decide) hpos).1 le_rfl
    exact_mod_cast hlt

theorem two_zpow_le_ten_zpow (n : Nat) : (2 : Rat) ^ (3 * n : Int) ≤ 10 ^ (n : Int) := by
  rw [zpow_mul, zpow_natCast, zpow_natCast]
  gcongr
  norm_num

theorem ten_zpow_neg_le_two_zpow (n : Nat) : (10 : Rat) ^ (-n : Int) ≤ 2 ^ (-(3 * n) : Int) := by
  rw [zpow_neg, zpow_neg]
  exact inv_anti₀ (by positivity) (two_zpow_le_ten_zpow n)

theorem ten_zpow_mul (a b : Int) : (10 : Rat) ^ a * 10 ^ b = 10 ^ (a + b) :=
  (zpow_add₀ (by norm_num) a b).symm

/-- What is near to a number is neither too small nor too large to be one. -/
theorem Near.bounds {mantissa : Nat} {exponent : Int} {q : Rat} (h : Near mantissa exponent q)
    (hcanonical : Canonical mantissa exponent) (hmantissa : 0 < mantissa) :
    2 ^ (-1076 : Int) ≤ q ∧ q < 2 ^ (1024 : Int) := by
  have hquarters : ((quartersBelow mantissa exponent : Nat) : Rat) ≤ 2 := by
    exact_mod_cast quartersBelow_le_two mantissa exponent
  have hone : (1 : Rat) ≤ mantissa := by exact_mod_cast hmantissa
  have hleast := hcanonical.least
  have hgreatest := hcanonical.greatest
  constructor
  · refine le_trans ?_ h.low
    have hpow : (0 : Rat) < 2 ^ (exponent - 2) := by positivity
    have hexponent := two_zpow_le (show (-1076 : Int) ≤ exponent - 2 by omega)
    nlinarith
  · have hexponent := two_zpow_le (show exponent - 2 ≤ 969 by omega)
    have hcast : ((mantissa + 1 : Nat) : Rat) ≤ ((2 ^ 53 : Nat) : Rat) :=
      Nat.cast_le.2 hcanonical.bounded
    push_cast at hcast
    calc q ≤ (4 * mantissa + 2) * (2 : Rat) ^ (exponent - 2) := h.high
      _ ≤ (4 * mantissa + 2) * 2 ^ (969 : Int) := by gcongr
      _ < 2 ^ 55 * 2 ^ (969 : Int) := by
          gcongr
          linarith
      _ = 2 ^ (55 : Int) * 2 ^ (969 : Int) := by norm_num
      _ = 2 ^ (1024 : Int) := two_zpow_mul _ _

/-- A decimal of the size of a number has its point within four hundred places of its digits. -/
theorem decimalLength_add_bounds {digits : Nat} {power : Int} (hdigits : 0 < digits)
    (hleast : (2 : Rat) ^ (-1076 : Int) ≤ digits * 10 ^ power)
    (hgreatest : (digits : Rat) * 10 ^ power < 2 ^ (1024 : Int)) :
    -400 ≤ (decimalLength digits : Int) + power ∧ (decimalLength digits : Int) + power ≤ 400 := by
  obtain ⟨hlength, hlength'⟩ := decimalLength_bounds hdigits
  have hten : (0 : Rat) < 10 ^ power := by positivity
  have hlow : (10 : Rat) ^ ((decimalLength digits : Int) - 1 + power) < 2 ^ (1024 : Int) := by
    rw [← ten_zpow_mul]
    exact lt_of_le_of_lt (by gcongr) hgreatest
  have hhigh : (2 : Rat) ^ (-1076 : Int) < 10 ^ ((decimalLength digits : Int) + power) := by
    rw [← ten_zpow_mul]
    exact lt_of_le_of_lt hleast (by gcongr)
  constructor
  · by_contra hlt
    have hreach : (10 : Rat) ^ (-401 : Int) ≤ 2 ^ (-1076 : Int) :=
      (ten_zpow_neg_le_two_zpow 401).trans (two_zpow_le (by norm_num))
    have hsmall : (10 : Rat) ^ ((decimalLength digits : Int) + power) ≤ 10 ^ (-401 : Int) :=
      zpow_le_zpow_right₀ (by norm_num) (by omega)
    exact absurd (hhigh.trans_le hsmall) (not_lt.2 hreach)
  · by_contra hlt
    have hreach : (2 : Rat) ^ (1024 : Int) ≤ 10 ^ (400 : Int) :=
      (two_zpow_le (by norm_num)).trans (two_zpow_le_ten_zpow 400)
    have hbig : (10 : Rat) ^ (400 : Int) ≤ 10 ^ ((decimalLength digits : Int) - 1 + power) :=
      zpow_le_zpow_right₀ (by norm_num) (by omega)
    exact absurd (hbig.trans_lt hlow) (not_lt.2 hreach)

/-- A decimal in the interval of a number, however it is written, is read as that number. -/
theorem ofDecimal_eq {mantissa digits : Nat} {exponent power : Int}
    (hcanonical : Canonical mantissa exponent) (hmantissa : 0 < mantissa)
    (h : Near mantissa exponent ((digits : Rat) * 10 ^ power)) (negative : Bool) :
    ofDecimal negative digits power = ofWord negative (wordOf mantissa exponent) := by
  obtain ⟨hleast, hgreatest⟩ := h.bounds hcanonical hmantissa
  have hdigits : 0 < digits := by
    rw [Nat.pos_iff_ne_zero]
    rintro rfl
    have hpositive : (0 : Rat) < 2 ^ (-1076 : Int) := zpow_pos (by norm_num) _
    rw [Nat.cast_zero, zero_mul] at hleast
    exact absurd hleast (not_le.2 hpositive)
  obtain ⟨hbottom, htop⟩ := decimalLength_add_bounds hdigits hleast hgreatest
  unfold ofDecimal
  simp only [Nat.pow_eq]
  rw [if_neg (by omega), if_neg (by omega), if_neg (by omega)]
  split
  · rename_i hneg
    obtain ⟨k, rfl⟩ : ∃ k : Nat, power = -k := ⟨power.natAbs, by omega⟩
    rw [ofRatio, nearestWord_eq hcanonical hdigits (by positivity)]
    rw [Int.natAbs_neg, Int.natAbs_natCast]
    push_cast
    rwa [zpow_neg, zpow_natCast, ← div_eq_mul_inv] at h
  · rename_i hpos
    obtain ⟨k, rfl⟩ : ∃ k : Nat, power = k := ⟨power.natAbs, by omega⟩
    rw [ofRatio, nearestWord_eq hcanonical (by positivity) (by decide)]
    rw [Int.natAbs_natCast]
    push_cast
    rwa [zpow_natCast, ← div_one ((digits : Rat) * 10 ^ k)] at h

end Clearance.Binary64
