import Clearance.Decimal.Shortest
import Clearance.Proofs.Decimal.Rounding

/-!
# Shortest digits

The digits that are chosen for a number lie in its interval, so they are read as that number.  The
last of the grids that are tried is finer than a quarter of the last bit, so some digits are found.
-/

namespace Clearance.Decimal

open Binary64 (Canonical Near quartersBelow quartersBelow_pos quartersBelow_le_two)

theorem gridUnit_spec (power exponent : Int) :
    0 < (gridUnit power exponent).1 ∧ 0 < (gridUnit power exponent).2 ∧
      ((gridUnit power exponent).1 : Rat) * 2 ^ exponent =
        (gridUnit power exponent).2 * 10 ^ power := by
  have hcases (n : Int) : ∃ k : Nat, n = k ∧ 0 ≤ n ∨ n = -k ∧ ¬ 0 ≤ n :=
    ⟨n.natAbs, by omega⟩
  simp only [gridUnit, Nat.pow_eq]
  obtain ⟨k, ⟨rfl, hpower⟩ | ⟨rfl, hpower⟩⟩ := hcases power <;>
    obtain ⟨l, ⟨rfl, hexponent⟩ | ⟨rfl, hexponent⟩⟩ := hcases exponent <;>
    simp only [hpower, hexponent, if_true, if_false, Int.natAbs_neg, Int.natAbs_natCast, zpow_neg,
      zpow_natCast] <;>
    refine ⟨by positivity, by positivity, ?_⟩ <;> push_cast <;> field_simp

/-- A point of a grid that lies in the interval of a number; the grid has `den` points for `num`. -/
structure Fits (mantissa : Nat) (exponent : Int) (num den digits : Nat) : Prop where
  low : (4 * mantissa - quartersBelow mantissa exponent) * den ≤ digits * num
  high : digits * num ≤ (4 * mantissa + 2) * den
  strict : mantissa % 2 = 1 ->
    (4 * mantissa - quartersBelow mantissa exponent) * den < digits * num ∧
      digits * num < (4 * mantissa + 2) * den

theorem Fits.near {mantissa digits : Nat} {exponent power : Int} (hmantissa : 0 < mantissa)
    (h : Fits mantissa exponent (gridUnit power (exponent - 2)).1
      (gridUnit power (exponent - 2)).2 digits) :
    Near mantissa exponent (digits * 10 ^ power) := by
  obtain ⟨hnum, hden, hunit⟩ := gridUnit_spec power (exponent - 2)
  have hquarters := quartersBelow_le_two mantissa exponent
  generalize (gridUnit power (exponent - 2)).1 = num at *
  generalize (gridUnit power (exponent - 2)).2 = den at *
  have hden' : (0 : Rat) < den := Nat.cast_pos.2 hden
  have hpow : (0 : Rat) < 2 ^ (exponent - 2) := by positivity
  have hvalue : (digits : Rat) * 10 ^ power = (digits * num : Nat) / den * 2 ^ (exponent - 2) := by
    push_cast
    rw [div_mul_eq_mul_div, mul_assoc (digits : Rat), hunit]
    field_simp
  have hsub : ((4 * mantissa - quartersBelow mantissa exponent : Nat) : Rat) =
      4 * mantissa - quartersBelow mantissa exponent := by
    rw [Nat.cast_sub (by omega)]
    push_cast
    rfl
  have hlow := h.low
  have hhigh := h.high
  have hstrict := h.strict
  generalize digits * num = point at *
  rw [hvalue]
  constructor
  · rw [mul_le_mul_iff_left₀ hpow, le_div_iff₀ hden', ← hsub]
    exact_mod_cast hlow
  · rw [mul_le_mul_iff_left₀ hpow, div_le_iff₀ hden']
    exact_mod_cast hhigh
  · intro hodd
    rw [mul_lt_mul_iff_left₀ hpow, mul_lt_mul_iff_left₀ hpow, lt_div_iff₀ hden',
      div_lt_iff₀ hden', ← hsub]
    exact_mod_cast hstrict hodd

/-- The digits on a grid are one of the two neighbours of the number, and on its side they fit. -/
theorem onGrid_eq_some {mantissa digits : Nat} {exponent power : Int}
    (h : onGrid mantissa exponent power = some digits) :
    let num := (gridUnit power (exponent - 2)).1
    let den := (gridUnit power (exponent - 2)).2
    let low := (4 * mantissa - quartersBelow mantissa exponent) * den
    let high := (4 * mantissa + 2) * den
    digits = 4 * mantissa * den / num ∧
        (low < digits * num ∨ mantissa % 2 = 0 ∧ low = digits * num) ∨
      digits = 4 * mantissa * den / num + 1 ∧
        (digits * num < high ∨ mantissa % 2 = 0 ∧ digits * num = high) := by
  intro num den low high
  have hquarters : (if mantissa = Nat.pow 2 52 && decide (-1074 < exponent) then 1 else 2) =
      quartersBelow mantissa exponent := rfl
  unfold onGrid at h
  dsimp only at h
  rw [hquarters] at h
  change (if (_ : Bool) then if 4 * mantissa * den - 4 * mantissa * den / num * num < _ then _ else _
    else _) = _ at h
  simp only [Bool.and_eq_true, Bool.or_eq_true, decide_eq_true_eq] at h
  change (if (low < 4 * mantissa * den / num * num ∨ _ ∧ low = _) ∧ (_ < high ∨ _ ∧ _ = high)
    then _ else _) = _ at h
  generalize 4 * mantissa * den / num = below at *
  split at h
  · rename_i hboth
    have hparity := Nat.mod_two_eq_zero_or_one below
    split at h
    · obtain rfl := Option.some.inj h
      exact .inl ⟨rfl, hboth.1⟩
    · split at h
      · obtain rfl := Option.some.inj h
        exact .inr ⟨rfl, hboth.2⟩
      · obtain hzero | hone := hparity
        · rw [hzero] at h
          obtain rfl := Option.some.inj h
          exact .inl ⟨rfl, hboth.1⟩
        · rw [hone] at h
          obtain rfl := Option.some.inj h
          exact .inr ⟨rfl, hboth.2⟩
  · split at h
    · rename_i hlow
      obtain rfl := Option.some.inj h
      exact .inl ⟨rfl, hlow⟩
    · split at h
      · rename_i hhigh
        obtain rfl := Option.some.inj h
        exact .inr ⟨rfl, hhigh⟩
      · cases h

theorem fits_of_onGrid {mantissa digits : Nat} {exponent power : Int} (hmantissa : 0 < mantissa)
    (h : onGrid mantissa exponent power = some digits) :
    Fits mantissa exponent (gridUnit power (exponent - 2)).1
      (gridUnit power (exponent - 2)).2 digits := by
  obtain ⟨hnum, hden, -⟩ := gridUnit_spec power (exponent - 2)
  have hquarters := quartersBelow_pos mantissa exponent
  have hcases := onGrid_eq_some h
  dsimp only at hcases
  generalize (gridUnit power (exponent - 2)).1 = num at *
  generalize (gridUnit power (exponent - 2)).2 = den at *
  have hbelow : 4 * mantissa * den / num * num ≤ 4 * mantissa * den := Nat.div_mul_le_self _ _
  have habove : 4 * mantissa * den < (4 * mantissa * den / num + 1) * num := by
    rw [Nat.mul_comm _ num]
    exact Nat.lt_mul_div_succ _ hnum
  have hlow : (4 * mantissa - quartersBelow mantissa exponent) * den < 4 * mantissa * den :=
    Nat.mul_lt_mul_of_pos_right (by omega) hden
  have hhigh : 4 * mantissa * den < (4 * mantissa + 2) * den :=
    Nat.mul_lt_mul_of_pos_right (by omega) hden
  obtain ⟨rfl, hfits⟩ | ⟨rfl, hfits⟩ := hcases
  · exact ⟨by omega, by omega, fun hodd => ⟨by omega, by omega⟩⟩
  · exact ⟨by omega, by omega, fun hodd => ⟨by omega, by omega⟩⟩

/-! ## The search -/

/-- A grid that is finer than a quarter of the last bit has a point in the interval. -/
theorem isSome_onGrid {mantissa : Nat} {exponent power : Int} (hmantissa : 0 < mantissa)
    (h : (10 : Rat) ^ power ≤ 2 ^ (exponent - 2)) :
    (onGrid mantissa exponent power).isSome := by
  obtain ⟨hnum, hden, hunit⟩ := gridUnit_spec power (exponent - 2)
  have hquarters : (if mantissa = Nat.pow 2 52 && decide (-1074 < exponent) then 1 else 2) =
      quartersBelow mantissa exponent := rfl
  have hpos := quartersBelow_pos mantissa exponent
  unfold onGrid
  dsimp only
  rw [hquarters]
  generalize (gridUnit power (exponent - 2)).1 = num at *
  generalize (gridUnit power (exponent - 2)).2 = den at *
  have hfine : num ≤ den := by
    have hpow : (0 : Rat) < 2 ^ (exponent - 2) := by positivity
    have hle : (num : Rat) * 2 ^ (exponent - 2) ≤ den * 2 ^ (exponent - 2) := by
      rw [hunit]
      gcongr
    exact_mod_cast (mul_le_mul_iff_left₀ hpow).1 hle
  -- The point below the number is less than one step away from it, so it is in the interval.
  have hlow : (4 * mantissa - quartersBelow mantissa exponent) * den <
      4 * mantissa * den / num * num := by
    have hbelow : 4 * mantissa * den < num * (4 * mantissa * den / num + 1) :=
      Nat.lt_mul_div_succ _ hnum
    have hstep : (4 * mantissa - quartersBelow mantissa exponent) * den + den ≤
        4 * mantissa * den := by
      rw [← Nat.succ_mul]
      exact Nat.mul_le_mul_right den (by omega)
    rw [Nat.mul_add, Nat.mul_comm num] at hbelow
    omega
  simp only [hlow, decide_true, Bool.true_or, Bool.true_and, if_true]
  split
  · split
    · rfl
    · split <;> rfl
  · rfl

theorem search_spec {mantissa : Nat} {exponent : Int} (tries : Nat) (power : Int)
    (h : (onGrid mantissa exponent (power - tries)).isSome) :
    onGrid mantissa exponent (search mantissa exponent tries power).exponent =
      some (search mantissa exponent tries power).digits := by
  induction tries generalizing power with
  | zero =>
      obtain ⟨digits, hdigits⟩ := Option.isSome_iff_exists.1 h
      rw [Int.natCast_zero, Int.sub_zero] at hdigits
      simp [search, hdigits]
  | succ tries ih =>
      simp only [search]
      cases hgrid : onGrid mantissa exponent power with
      | some digits => exact hgrid
      | none =>
          refine ih (power - 1) ?_
          rwa [show power - 1 - (tries : Int) = power - (tries + 1 : Nat) by omega]

/-- A power of ten below a power of two, by three and a third bits for each digit. -/
theorem ten_zpow_le_two_zpow {p q : Int} (hpos : 0 ≤ p -> 10 * p ≤ 3 * q)
    (hneg : p < 0 -> 93 * p ≤ 28 * q) : (10 : Rat) ^ p ≤ 2 ^ q := by
  by_cases hp : 0 ≤ p
  · obtain ⟨k, rfl⟩ := Int.eq_ofNat_of_zero_le hp
    obtain ⟨l, rfl⟩ := Int.eq_ofNat_of_zero_le (show 0 ≤ q by have := hpos hp; omega)
    have hcube : (10 ^ k) ^ 3 ≤ (2 ^ l) ^ 3 := calc
      (10 ^ k) ^ 3 = 1000 ^ k := by rw [← Nat.pow_mul, Nat.mul_comm, Nat.pow_mul]
      _ ≤ 1024 ^ k := Nat.pow_le_pow_left (by decide) k
      _ = 2 ^ (10 * k) := by rw [Nat.pow_mul]
      _ ≤ 2 ^ (3 * l) := Nat.pow_le_pow_right (by decide) (by have := hpos hp; omega)
      _ = (2 ^ l) ^ 3 := by rw [← Nat.pow_mul, Nat.mul_comm]
    exact_mod_cast (Nat.pow_le_pow_iff_left (by decide)).1 hcube
  · obtain ⟨k, rfl⟩ : ∃ k : Nat, p = -k := ⟨p.natAbs, by omega⟩
    by_cases hq : 0 ≤ q
    · calc (10 : Rat) ^ (-k : Int) ≤ 10 ^ (0 : Int) :=
            zpow_le_zpow_right₀ (by norm_num) (by omega)
        _ = 2 ^ (0 : Int) := by simp
        _ ≤ 2 ^ q := zpow_le_zpow_right₀ (by norm_num) hq
    · obtain ⟨l, rfl⟩ : ∃ l : Nat, q = -l := ⟨q.natAbs, by omega⟩
      have hpower : (2 ^ l) ^ 28 ≤ (10 ^ k) ^ 28 := calc
        (2 ^ l) ^ 28 = 2 ^ (28 * l) := by rw [← Nat.pow_mul, Nat.mul_comm]
        _ ≤ 2 ^ (93 * k) := Nat.pow_le_pow_right (by decide) (by have := hneg (by omega); omega)
        _ = (2 ^ 93) ^ k := by rw [Nat.pow_mul]
        _ ≤ (10 ^ 28) ^ k := Nat.pow_le_pow_left (by decide) k
        _ = (10 ^ k) ^ 28 := by rw [← Nat.pow_mul, Nat.mul_comm, Nat.pow_mul]
      rw [zpow_neg, zpow_neg, zpow_natCast, zpow_natCast]
      refine inv_anti₀ (by positivity) ?_
      exact_mod_cast (Nat.pow_le_pow_iff_left (by decide)).1 hpower

theorem isSome_onGrid_last {mantissa : Nat} {exponent : Int} (h : Canonical mantissa exponent)
    (hmantissa : 0 < mantissa) :
    (onGrid mantissa exponent (tensGuess mantissa exponent + 1 - 19)).isSome := by
  have hbits : Nat.log2 mantissa < 53 := (Nat.log2_lt (by omega)).2 h.bounded
  have hleast := h.least
  have hgreatest := h.greatest
  refine isSome_onGrid hmantissa (ten_zpow_le_two_zpow ?_ ?_)
  · intro hpos
    unfold tensGuess at *
    omega
  · intro hneg
    unfold tensGuess at *
    omega

/-- The shortest digits of a number lie in its interval. -/
theorem near_shortest {mantissa : Nat} {exponent : Int} (h : Canonical mantissa exponent)
    (hmantissa : 0 < mantissa) :
    Near mantissa exponent
      ((shortest mantissa exponent).digits * 10 ^ (shortest mantissa exponent).exponent) := by
  unfold shortest
  rw [if_neg (by omega)]
  have hsearch := search_spec 19 _ (isSome_onGrid_last h hmantissa)
  exact (fits_of_onGrid hmantissa hsearch).near hmantissa

end Clearance.Decimal
