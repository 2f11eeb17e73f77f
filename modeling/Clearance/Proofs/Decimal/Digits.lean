import Clearance.Decimal.Layout
import Clearance.Decimal.Reading
import Clearance.Text.Quoted
import Mathlib.Algebra.Ring.Nat

/-!
# Digits read back

The digits of a whole number, in base ten or sixteen and with zeros in front or without, are read
as that number.  Decimal digits in a row have the value that the library gives them.
-/

namespace Clearance.Decimal

theorem digitValue?_digitChar {base d : Nat} (hbase : base ≤ 16) (h : d < base) :
    digitValue? base d.digitChar = some d := by
  have hvalue : ∀ d < 16, digitValue? 16 d.digitChar = some d := by decide
  have hfilter : ∀ v? : Option Nat, v?.filter (· < 16) = some d ->
      v?.filter (· < base) = some d := by
    intro v? hv
    obtain ⟨rfl, -⟩ := Option.filter_eq_some_iff.1 hv
    simp [h]
  exact hfilter _ (hvalue d (Nat.lt_of_lt_of_le h hbase))

theorem readDigits_append (base acc : Nat) (xs ys : List Char) :
    readDigits base acc (xs ++ ys) =
      (readDigits base acc xs).bind fun n => readDigits base n ys := by
  induction xs generalizing acc with
  | nil => rfl
  | cons c rest ih =>
      simp only [List.cons_append, readDigits]
      cases digitValue? base c with
      | none => rfl
      | some d => exact ih _

theorem readDigits_toDigits {base : Nat} (hbase : 1 < base) (hbound : base ≤ 16) (acc n : Nat) :
    readDigits base acc (Nat.toDigits base n) =
      some (acc * base ^ (Nat.toDigits base n).length + n) := by
  induction n using Nat.strongRecOn generalizing acc with
  | ind n ih =>
      by_cases hn : n < base
      · rw [Nat.toDigits_of_lt_base hn]
        simp [readDigits, digitValue?_digitChar hbound hn]
      · have hlt : n / base < n := Nat.div_lt_self (by omega) hbase
        have hmod : n % base < base := Nat.mod_lt _ (by omega)
        rw [Nat.toDigits_of_base_le hbase (by omega), readDigits_append, ih _ hlt]
        simp only [Option.bind_some, readDigits, digitValue?_digitChar hbound hmod,
          List.length_append, List.length_singleton, Nat.pow_succ, Option.some.injEq]
        have hdiv := Nat.div_add_mod n base
        rw [Nat.add_mul, Nat.mul_assoc, Nat.mul_comm (n / base), Nat.add_assoc, hdiv]

theorem readDigits_replicate_zero {base : Nat} (hbase : 0 < base) (acc k : Nat) :
    readDigits base acc (List.replicate k '0') = some (acc * base ^ k) := by
  induction k generalizing acc with
  | zero => simp [readDigits]
  | succ k ih =>
      have hzero : digitValue? base '0' = some 0 := by simp [digitValue?, hbase]
      simp only [List.replicate_succ, readDigits, hzero, Nat.add_zero, ih]
      rw [Nat.pow_succ, Nat.mul_assoc, Nat.mul_comm base]

theorem readNat?_of_readDigits {base n : Nat} {cs : List Char} (hcs : cs ≠ [])
    (h : readDigits base 0 cs = some n) : readNat? base cs = some n := by
  unfold readNat?
  rw [if_neg (by simpa using hcs)]
  exact h

theorem readNat?_padded {base : Nat} (hbase : 1 < base) (hbound : base ≤ 16) (k n : Nat) :
    readNat? base (List.replicate k '0' ++ Nat.toDigits base n) = some n := by
  refine readNat?_of_readDigits ?_ ?_
  · simp [Nat.toDigits_ne_nil]
  · rw [readDigits_append, readDigits_replicate_zero (by omega)]
    simp [readDigits_toDigits hbase hbound]

theorem readNat?_toDigits {base : Nat} (hbase : 1 < base) (hbound : base ≤ 16) (n : Nat) :
    readNat? base (Nat.toDigits base n) = some n :=
  readNat?_padded hbase hbound 0 n

/-! ## Decimal digits -/

theorem isDigit_eq (c : Char) : isDigit c = c.isDigit := by
  simp [isDigit, Char.isDigit, Char.le_def]

theorem isDigit_digitChars {n : Nat} {c : Char} (h : c ∈ digitChars n) : isDigit c = true := by
  rw [isDigit_eq]
  exact Nat.isDigit_of_mem_toDigits (by decide) (by decide) h

theorem digitChars_ne_nil (n : Nat) : digitChars n ≠ [] :=
  Nat.toDigits_ne_nil

theorem isDigit_replicate_zero {k : Nat} {c : Char} (h : c ∈ List.replicate k '0') :
    isDigit c = true := by
  obtain ⟨-, rfl⟩ := List.mem_replicate.1 h
  rfl

theorem digitValue?_of_isDigit {c : Char} (h : isDigit c = true) :
    digitValue? 10 c = some (c.toNat - '0'.toNat) := by
  have hrange : 48 ≤ c.toNat ∧ c.toNat ≤ 57 := by
    simpa [isDigit, Char.le_def, UInt32.le_iff_toNat_le] using h
  have hten : c.toNat - 48 < 10 := by omega
  simp [digitValue?, hrange.1, hrange.2, hten]

theorem readNat?_digitChars (n : Nat) : readNat? 10 (digitChars n) = some n :=
  readNat?_toDigits (by decide) (by decide) n

/-- The digits of a number above zero do not start with zero. -/
theorem head?_digitChars {n : Nat} (h : 0 < n) : (digitChars n).head? ≠ some '0' := by
  unfold digitChars
  induction n using Nat.strongRecOn with
  | ind n ih =>
      by_cases hn : n < 10
      · rw [Nat.toDigits_of_lt_base hn]
        simp [Nat.digitChar_eq_zero]
        omega
      · have hdiv : 0 < n / 10 := by omega
        have hrest := ih _ (by omega) hdiv
        rw [Nat.toDigits_of_base_le (by decide) (by omega)]
        cases hdigits : Nat.toDigits 10 (n / 10) with
        | nil => exact absurd hdigits Nat.toDigits_ne_nil
        | cons c rest =>
            rw [hdigits] at hrest
            exact hrest

/-! ## Whole numbers -/

theorem readInt?_of_splitSign {negative : Bool} {cs digits : List Char} {n : Nat}
    (hsplit : splitSign cs = (negative, digits)) (hread : readNat? 10 digits = some n) :
    readInt? cs = some (if negative then -(n : Int) else n) := by
  simp only [readInt?, hsplit, hread]
  rfl

theorem toList_natText (n : Nat) : (natText n).toList = digitChars n := by
  simp [natText]

theorem toList_intText (n : Int) :
    (intText n).toList = (if n < 0 then ['-'] else []) ++ digitChars n.natAbs := by
  unfold intText
  split <;> simp [toList_natText]

theorem toList_padLeft (width n : Nat) :
    (padLeft width n).toList =
      List.replicate (width - (digitChars n).length) '0' ++ digitChars n := by
  simp [padLeft]

theorem isDigit_padLeft {width n : Nat} {c : Char} (h : c ∈ (padLeft width n).toList) :
    isDigit c = true := by
  rw [toList_padLeft, List.mem_append] at h
  exact h.elim isDigit_replicate_zero isDigit_digitChars

theorem readNat?_padLeft (width n : Nat) : readNat? 10 (padLeft width n).toList = some n := by
  rw [toList_padLeft]
  exact readNat?_padded (by decide) (by decide) _ n

/-- A number that is no longer than the width is written in exactly the width. -/
theorem length_padLeft {width n : Nat} (hwidth : 0 < width) (h : n < 10 ^ width) :
    (padLeft width n).toList.length = width := by
  have hlength : (digitChars n).length ≤ width :=
    (Nat.length_toDigits_le_iff (by decide) hwidth).2 h
  rw [toList_padLeft, List.length_append, List.length_replicate]
  omega

end Clearance.Decimal

namespace Clearance.Text

theorem length_hexPadded {width n : Nat} (hwidth : 0 < width) (h : n < 16 ^ width) :
    (hexPadded width n).length = width := by
  have hlength : (Nat.toDigits 16 n).length ≤ width :=
    (Nat.length_toDigits_le_iff (by decide) hwidth).2 h
  simp only [hexPadded, List.length_append, List.length_replicate]
  omega

theorem readNat?_hexPadded (width n : Nat) : Decimal.readNat? 16 (hexPadded width n) = some n :=
  Decimal.readNat?_padded (by decide) (by decide) _ n

theorem digitValue?_toUpper (c : Char) :
    Decimal.digitValue? 16 c.toUpper = Decimal.digitValue? 16 c := by
  by_cases h : 'a'.val ≤ c.val ∧ c.val ≤ 'z'.val
  · have hlow : 97 ≤ c.toNat := UInt32.le_iff_toNat_le.1 h.1
    have hhigh : c.toNat ≤ 122 := UInt32.le_iff_toNat_le.1 h.2
    have hupper : c.toUpper.toNat = c.toNat - 32 := by
      have hval : c.toUpper.val = c.val + ('A'.val - 'a'.val) := by
        delta Char.toUpper
        rw [dif_pos h]
      have hshift : ('A'.val - 'a'.val).toNat = 4294967264 := by decide
      rw [Char.toNat, hval, UInt32.toNat_add, hshift]
      rw [Char.toNat] at hlow hhigh ⊢
      omega
    have hdigit : ¬ c.toNat - 32 ≤ 57 := by omega
    have hdigit' : ¬ c.toNat ≤ 57 := by omega
    have hletter : ¬ 97 ≤ c.toNat - 32 := by omega
    have hletter' : 65 ≤ c.toNat - 32 := by omega
    have hbound : c.toNat - 32 ≤ 70 ↔ c.toNat ≤ 102 := by omega
    have hvalue : c.toNat - 32 - 55 = c.toNat - 87 := by omega
    have hlarge : ¬ c.toNat ≤ 70 := by omega
    simp [Decimal.digitValue?, hupper, hdigit, hdigit', hletter, hletter', hlow, hbound, hvalue,
      hlarge]
  · have hsame : c.toUpper = c := dif_neg h
    rw [hsame]

/-- Digits in base sixteen may be in upper case. -/
theorem readNat?_map_toUpper (cs : List Char) :
    Decimal.readNat? 16 (cs.map Char.toUpper) = Decimal.readNat? 16 cs := by
  have hdigits (acc : Nat) :
      Decimal.readDigits 16 acc (cs.map Char.toUpper) = Decimal.readDigits 16 acc cs := by
    induction cs generalizing acc with
    | nil => rfl
    | cons c rest ih =>
        rw [List.map_cons, Decimal.readDigits, Decimal.readDigits, digitValue?_toUpper]
        split
        · exact ih _
        · rfl
  rw [Decimal.readNat?, Decimal.readNat?, hdigits, List.isEmpty_map]

end Clearance.Text
