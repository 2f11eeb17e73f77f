import Clearance.Json.Reader
import Clearance.Proofs.Decimal.Digits
import Clearance.Proofs.Decimal.Shortest
import Clearance.Proofs.Text.Front

/-!
# Numbers read back

The text of a whole number and that of a finite number, in any layout, are read as that number,
whatever follows that no number goes on with.
-/

namespace Clearance.Json

open Decimal (isDigit digitChars readDigits readInt?)
open Text (Stops)

/-- The characters of a number in its parts. -/
def NumberText.chars (t : NumberText) : List Char :=
  (if t.negative then ['-'] else []) ++ t.whole ++
    (if t.fraction.isEmpty then [] else '.' :: t.fraction) ++
    (if t.exponent.isEmpty then [] else 'e' :: t.exponent)

/-- The parts hold digits; the whole part has no zero in front of other digits. -/
structure NumberText.Regular (t : NumberText) : Prop where
  whole_ne_nil : t.whole ≠ []
  whole_digits : ∀ c ∈ t.whole, isDigit c = true
  whole_lead : t.whole = ['0'] ∨ t.whole.head? ≠ some '0'
  fraction_digits : ∀ c ∈ t.fraction, isDigit c = true
  exponent_digits : t.exponent = [] ∨ ∃ sign digits, t.exponent = sign ++ digits ∧
    (sign = [] ∨ sign = ['+'] ∨ sign = ['-']) ∧ digits ≠ [] ∧ ∀ c ∈ digits, isDigit c = true

/-- Whether a number may go on with a character. -/
def continuesNumber (c : Char) : Bool :=
  isDigit c || c == '.' || c == 'e' || c == 'E'

theorem isDigit_of_stops {rest : List Char} (h : Stops continuesNumber rest) : Stops isDigit rest := by
  intro c hc
  have := h c hc
  simp only [continuesNumber, Bool.or_eq_false_iff] at this
  exact this.1.1.1

theorem ne_of_isDigit {c d : Char} (hc : isDigit c = true) (hd : isDigit d = false) : c ≠ d := by
  rintro rfl
  rw [hc] at hd
  cases hd

theorem takeExponent_chars {exponent rest : List Char} (hrest : Stops continuesNumber rest)
    (h : exponent = [] ∨ ∃ sign digits, exponent = sign ++ digits ∧
      (sign = [] ∨ sign = ['+'] ∨ sign = ['-']) ∧ digits ≠ [] ∧ ∀ c ∈ digits, isDigit c = true) :
    takeExponent ((if exponent.isEmpty then [] else 'e' :: exponent) ++ rest) = exponent := by
  obtain rfl | ⟨sign, digits, rfl, hsign, hne, hdigits⟩ := h
  · cases rest with
    | nil => rfl
    | cons c more =>
        have hc := Text.stops_cons.1 hrest
        simp only [continuesNumber, Bool.or_eq_false_iff, beq_eq_false_iff_ne] at hc
        simp [takeExponent, hc.1.2, hc.2]
  · have hstop := isDigit_of_stops hrest
    have htake := Text.takeWhile_append_stop hdigits hstop
    obtain ⟨d, more, rfl⟩ := List.exists_cons_of_ne_nil hne
    have hd := hdigits d (List.mem_cons_self ..)
    have hplus : d ≠ '+' := ne_of_isDigit hd (by decide)
    have hminus : d ≠ '-' := ne_of_isDigit hd (by decide)
    rw [List.cons_append] at htake
    obtain rfl | rfl | rfl := hsign <;> simp [takeExponent, htake, hplus, hminus]

theorem takeFraction_chars {fraction rest : List Char} (hrest : Stops isDigit rest)
    (hpoint : rest.head? ≠ some '.') (h : ∀ c ∈ fraction, isDigit c = true) :
    takeFraction ((if fraction.isEmpty then [] else '.' :: fraction) ++ rest) = fraction := by
  cases fraction with
  | nil =>
      cases rest with
      | nil => rfl
      | cons c more =>
          have hc : c ≠ '.' := fun heq => hpoint (congrArg some heq)
          simp [takeFraction, hc]
  | cons d more => exact Text.takeWhile_append_stop h hrest

/-- The digits of a whole part, of which a zero in front is the only one. -/
def takeWhole : List Char -> List Char
  | '0' :: _ => ['0']
  | cs => cs.takeWhile isDigit

theorem takeWhole_chars {whole rest : List Char} (hrest : Stops isDigit rest)
    (h : ∀ c ∈ whole, isDigit c = true) (hlead : whole = ['0'] ∨ whole.head? ≠ some '0') :
    takeWhole (whole ++ rest) = whole := by
  have htake := Text.takeWhile_append_stop h hrest
  obtain rfl | hlead := hlead
  · rfl
  · unfold takeWhole
    split
    · rename_i heq
      cases whole with
      | nil =>
          rw [List.nil_append] at heq
          rw [heq] at hrest
          cases Text.stops_cons.1 hrest
      | cons c more =>
          obtain ⟨rfl, -⟩ := List.cons.inj heq
          exact absurd rfl hlead
    · exact htake

/-- Reads a number behind its sign. -/
def readUnsigned? (negative : Bool) (cs : List Char) (c : Cursor) : Option (Json × Cursor) :=
  let whole := takeWhole cs
  if whole.isEmpty then none
  else
    let afterWhole := cs.drop whole.length
    let fraction := takeFraction afterWhole
    let fractionLength := if fraction.isEmpty then 0 else fraction.length + 1
    let afterFraction := afterWhole.drop fractionLength
    let exponent := takeExponent afterFraction
    let exponentLength := if exponent.isEmpty then 0 else exponent.length + 1
    let used := (if negative then 1 else 0) + whole.length + fractionLength + exponentLength
    if fraction.isEmpty && exponent.isEmpty then
      (Decimal.readNat? 10 whole).map fun n =>
        (.int (if negative then -(n : Int) else n), c.skip used)
    else
      (Decimal.Parts.number?
        { negative, whole, fraction, exponent := (readInt? exponent).getD 0 }).map
        fun x => (.real x, c.skip used)

theorem readNumber?_of_minus {c : Cursor} {cs : List Char} (h : c.rest = '-' :: cs) :
    readNumber? c = readUnsigned? true cs c := by
  unfold readNumber?
  rw [h]
  rfl

theorem readNumber?_of_digit {c : Cursor} {d : Char} {cs : List Char} (h : c.rest = d :: cs)
    (hd : isDigit d = true) : readNumber? c = readUnsigned? false (d :: cs) c := by
  have hminus : d ≠ '-' := ne_of_isDigit hd (by decide)
  unfold readNumber?
  rw [h]
  split
  rename_i negative rest hsplit
  split at hsplit
  · rename_i heq
    obtain ⟨rfl, -⟩ := List.cons.inj heq
    exact absurd rfl hminus
  · obtain ⟨rfl, rfl⟩ := Prod.mk.inj hsplit
    rfl

/-- A number is read up to its last character. -/
theorem readNumber?_chars {t : NumberText} (ht : t.Regular) {c : Cursor} {rest : List Char}
    (hrest : Stops continuesNumber rest) (hc : c.rest = t.chars ++ rest) :
    readNumber? c =
      if t.fraction.isEmpty && t.exponent.isEmpty then
        (Decimal.readNat? 10 t.whole).map fun (n : Nat) =>
          (.int (if t.negative then -(n : Int) else n), c.skip t.chars.length)
      else
        (Decimal.Parts.number?
          { negative := t.negative, whole := t.whole, fraction := t.fraction
            exponent := (readInt? t.exponent).getD 0 }).map
          fun x => (.real x, c.skip t.chars.length) := by
  obtain ⟨negative, whole, fraction, exponent⟩ := t
  obtain ⟨hne, hwhole, hlead, hfraction, hexponent⟩ := ht
  dsimp only at hne hwhole hlead hfraction hexponent ⊢
  have hexponent' := takeExponent_chars hrest hexponent
  generalize hlast : (if exponent.isEmpty then [] else 'e' :: exponent) ++ rest = last at hexponent'
  have hlaststops : Stops isDigit last ∧ last.head? ≠ some '.' := by
    rw [← hlast]
    cases exponent with
    | nil =>
        refine ⟨isDigit_of_stops hrest, fun hpoint => ?_⟩
        cases hrest _ hpoint
    | cons d more => exact ⟨Text.stops_cons.2 (by decide), by simp⟩
  have hfraction' := takeFraction_chars hlaststops.1 hlaststops.2 hfraction
  generalize hmiddle : (if fraction.isEmpty then [] else '.' :: fraction) ++ last = middle
    at hfraction'
  have hmiddlestops : Stops isDigit middle := by
    rw [← hmiddle]
    cases fraction with
    | nil => exact hlaststops.1
    | cons d more => exact Text.stops_cons.2 (by decide)
  have hwhole' := takeWhole_chars hmiddlestops hwhole hlead
  have hafter : middle.drop (if fraction.isEmpty then 0 else fraction.length + 1) = last := by
    rw [← hmiddle]
    cases fraction <;> simp
  have hnonempty : whole.isEmpty = false := by simpa using hne
  have hlength : (if negative then 1 else 0) + whole.length +
      (if fraction.isEmpty then 0 else fraction.length + 1) +
      (if exponent.isEmpty then 0 else exponent.length + 1) =
        (NumberText.chars { negative, whole, fraction, exponent }).length := by
    cases negative <;> cases fraction <;> cases exponent <;> simp [NumberText.chars] <;> omega
  have hread : readNumber? c = readUnsigned? negative (whole ++ middle) c := by
    have htext : c.rest = (if negative then ['-'] else []) ++ (whole ++ middle) := by
      rw [hc, ← hmiddle, ← hlast]
      simp [NumberText.chars]
    cases negative with
    | true => exact readNumber?_of_minus htext
    | false =>
        obtain ⟨d, more, rfl⟩ := List.exists_cons_of_ne_nil hne
        exact readNumber?_of_digit htext (hwhole d (List.mem_cons_self ..))
  rw [hread]
  simp only [readUnsigned?, hwhole', hnonempty, Bool.false_eq_true, if_false, List.drop_left,
    hfraction', hafter, hexponent', hlength]
  cases Decimal.readNat? 10 whole <;> rfl

/-! ## The texts of numbers -/

theorem intText_chars (n : Int) :
    (Decimal.intText n).toList = NumberText.chars
      { negative := decide (n < 0), whole := digitChars n.natAbs, fraction := [], exponent := [] } := by
  simp [Decimal.toList_intText, NumberText.chars]

theorem regular_int (n : Int) :
    NumberText.Regular
      { negative := decide (n < 0), whole := digitChars n.natAbs, fraction := [], exponent := [] } where
  whole_ne_nil := Decimal.digitChars_ne_nil _
  whole_digits := fun _ => Decimal.isDigit_digitChars
  whole_lead := by
    obtain hzero | hpos := Nat.eq_zero_or_pos n.natAbs
    · exact .inl (by rw [hzero]; rfl)
    · exact .inr (Decimal.head?_digitChars hpos)
  fraction_digits := by simp
  exponent_digits := .inl rfl

theorem readNumber?_intText (n : Int) {c : Cursor} {rest : List Char}
    (hrest : Stops continuesNumber rest) (hc : c.rest = (Decimal.intText n).toList ++ rest) :
    readNumber? c = some (.int n, c.skip (Decimal.intText n).toList.length) := by
  rw [intText_chars] at hc ⊢
  rw [readNumber?_chars (regular_int n) hrest hc]
  simp only [List.isEmpty_nil, Bool.and_self, if_true, Decimal.readNat?_digitChars, Option.map_some,
    decide_eq_true_eq, Option.some.injEq, Prod.mk.injEq, Json.int.injEq, and_true]
  omega

/-! ## The texts of finite numbers -/

theorem exponent_signed (layout : Decimal.Layout) (n : Int) :
    ∃ sign digits,
      (if n < 0 then ['-'] else if layout.plusSign then ['+'] else []) ++
          (Decimal.padLeft layout.exponentWidth n.natAbs).toList = sign ++ digits ∧
        (sign = [] ∨ sign = ['+'] ∨ sign = ['-']) ∧ digits ≠ [] ∧
        (∀ c ∈ digits, isDigit c = true) ∧ readInt? (sign ++ digits) = some n := by
  have hread := Decimal.readNat?_padLeft layout.exponentWidth n.natAbs
  have hdigits : ∀ c ∈ (Decimal.padLeft layout.exponentWidth n.natAbs).toList, isDigit c = true :=
    fun _ => Decimal.isDigit_padLeft
  generalize (Decimal.padLeft layout.exponentWidth n.natAbs).toList = digits at *
  have hne : digits ≠ [] := by
    rintro rfl
    cases hread
  by_cases hn : n < 0
  · have hvalue : n = if true then -(n.natAbs : Int) else n.natAbs := by
      rw [if_pos rfl]
      omega
    have hsplit : Decimal.splitSign ('-' :: digits) = (true, digits) := rfl
    refine ⟨['-'], digits, by simp [hn], .inr (.inr rfl), hne, hdigits, ?_⟩
    rw [List.singleton_append, Decimal.readInt?_of_splitSign hsplit hread, ← hvalue]
  · have hvalue : n = if false then -(n.natAbs : Int) else n.natAbs := by
      rw [if_neg Bool.false_ne_true]
      omega
    cases layout.plusSign with
    | true =>
        have hsplit : Decimal.splitSign ('+' :: digits) = (false, digits) := rfl
        refine ⟨['+'], digits, by simp [hn], .inr (.inl rfl), hne, hdigits, ?_⟩
        rw [List.singleton_append, Decimal.readInt?_of_splitSign hsplit hread, ← hvalue]
    | false =>
        obtain ⟨d, more, rfl⟩ := List.exists_cons_of_ne_nil hne
        have hd := hdigits d (List.mem_cons_self ..)
        have hplus : d ≠ '+' := ne_of_isDigit hd (by decide)
        have hminus : d ≠ '-' := ne_of_isDigit hd (by decide)
        have hsplit : Decimal.splitSign (d :: more) = (false, d :: more) := by
          simp [Decimal.splitSign, hplus, hminus]
        refine ⟨[], d :: more, by simp [hn], .inl rfl, hne, hdigits, ?_⟩
        rw [List.nil_append, Decimal.readInt?_of_splitSign hsplit hread, ← hvalue]

/-- A decimal in the interval of a number is read as the number. -/
theorem number?_eq {x : Binary64} {mantissa : Nat} {exponent : Int}
    (hx : x.magnitude = .finite mantissa exponent) (hmantissa : 0 < mantissa)
    {whole fraction : List Char} {power : Int} {n : Nat}
    (hdigits : readDigits 10 0 (whole ++ fraction) = some n)
    (hvalue : (n : Rat) * 10 ^ (power - fraction.length) =
      (Decimal.shortest mantissa exponent).digits *
        10 ^ (Decimal.shortest mantissa exponent).exponent) :
    Decimal.Parts.number? { negative := x.isNegative, whole, fraction, exponent := power } =
      some x := by
  obtain ⟨hcanonical, hword⟩ := Binary64.finite_of_magnitude hx
  have hnear := Decimal.near_shortest hcanonical hmantissa
  rw [← hvalue] at hnear
  simp only [Decimal.Parts.number?, hdigits, Option.map_some,
    Binary64.ofDecimal_eq hcanonical hmantissa hnear, hword, Binary64.ofWord_magnitudeWord]

/-- The parts of a number, one of them a fraction or an exponent, and the number that they write. -/
structure NumberText.Writes (t : NumberText) (body : List Char) (x : Binary64) : Prop where
  regular : t.Regular
  chars : t.chars = (if x.isNegative then ['-'] else []) ++ body
  isReal : (t.fraction.isEmpty && t.exponent.isEmpty) = false
  number : Decimal.Parts.number?
    { negative := t.negative, whole := t.whole, fraction := t.fraction
      exponent := (readInt? t.exponent).getD 0 } = some x

section

variable {x : Binary64} {mantissa : Nat} {exponent : Int}

theorem shortest_digits_pos (hx : x.magnitude = .finite mantissa exponent)
    (hmantissa : 0 < mantissa) : 0 < (Decimal.shortest mantissa exponent).digits := by
  obtain ⟨hcanonical, -⟩ := Binary64.finite_of_magnitude hx
  have hlow := (Decimal.near_shortest hcanonical hmantissa).low
  have hquarters : ((Binary64.quartersBelow mantissa exponent : Nat) : Rat) ≤ 2 := by
    exact_mod_cast Binary64.quartersBelow_le_two mantissa exponent
  have hone : (1 : Rat) ≤ mantissa := by exact_mod_cast hmantissa
  have hpow : (0 : Rat) < 2 ^ (exponent - 2) := by positivity
  have hpos : (0 : Rat) < (4 * mantissa - Binary64.quartersBelow mantissa exponent) *
      2 ^ (exponent - 2) := mul_pos (by linarith) hpow
  rw [Nat.pos_iff_ne_zero]
  intro hzero
  rw [hzero, Nat.cast_zero, zero_mul] at hlow
  exact absurd hlow (not_le.2 hpos)

/-- Characters that are the shortest digits of a number, with the power of ten behind them. -/
structure ShortestChars (x : Binary64) (cs : List Char) (digits : Nat) (power : Int) : Prop where
  ne_nil : cs ≠ []
  isDigit : ∀ c ∈ cs, isDigit c = true
  head_ne : cs.head? ≠ some '0'
  read : readDigits 10 0 cs = some digits
  /-- Digits of the same value are read back, wherever their point and whatever their power is. -/
  number (whole fraction : List Char) (exponent : Int) {n : Nat}
    (read : readDigits 10 0 (whole ++ fraction) = some n)
    (same : (n : Rat) * 10 ^ (exponent - fraction.length) = digits * 10 ^ power) :
    Decimal.Parts.number? { negative := x.isNegative, whole, fraction, exponent } = some x

theorem shortestChars (hx : x.magnitude = .finite mantissa exponent) (hmantissa : 0 < mantissa) :
    ShortestChars x (digitChars (Decimal.shortest mantissa exponent).digits)
      (Decimal.shortest mantissa exponent).digits
      (Decimal.shortest mantissa exponent).exponent where
  ne_nil := Decimal.digitChars_ne_nil _
  isDigit _ := Decimal.isDigit_digitChars
  head_ne := Decimal.head?_digitChars (shortest_digits_pos hx hmantissa)
  read := (Decimal.readDigits_toDigits (by decide) (by decide) 0 _).trans (by simp)
  number _ _ _ _ read same := number?_eq hx hmantissa read same

end

namespace ShortestChars

variable {x : Binary64} {cs : List Char} {digits : Nat} {power : Int}

/-- Only zeros stand between the point and the digits. -/
theorem exists_below (h : ShortestChars x cs digits power) {zeros : Nat}
    (hpoint : (cs.length : Int) + power = -zeros) :
    ∃ t : NumberText, t.Writes ('0' :: '.' :: List.replicate zeros '0' ++ cs) x := by
  refine ⟨{ negative := x.isNegative, whole := ['0'], fraction := List.replicate zeros '0' ++ cs
            exponent := [] }, ?_, ?_, ?_, ?_⟩
  · refine ⟨by simp, fun c hc => ?_, .inl rfl, fun c hc => ?_, .inl rfl⟩
    · obtain rfl := List.mem_singleton.1 hc
      rfl
    · exact (List.mem_append.1 hc).elim Decimal.isDigit_replicate_zero (h.isDigit c)
  · simp [NumberText.chars, h.ne_nil]
  · simp [h.ne_nil]
  · refine h.number _ _ 0 (n := digits) ?_ ?_
    · rw [List.singleton_append]
      change readDigits 10 0 (List.replicate _ '0' ++ cs) = _
      rw [Decimal.readDigits_append, Decimal.readDigits_replicate_zero (by decide), Nat.zero_mul]
      exact h.read
    · congr 2
      rw [List.length_append, List.length_replicate]
      omega

/-- Zeros fill up to the point, and one stands behind it. -/
theorem exists_above {zeros : Nat} (h : ShortestChars x cs digits zeros) :
    ∃ t : NumberText, t.Writes (cs ++ List.replicate zeros '0' ++ ['.', '0']) x := by
  refine ⟨{ negative := x.isNegative, whole := cs ++ List.replicate zeros '0', fraction := ['0']
            exponent := [] }, ?_, ?_, ?_, ?_⟩
  · refine ⟨by simp [h.ne_nil], fun c hc => ?_, .inr ?_, fun c hc => ?_, .inl rfl⟩
    · exact (List.mem_append.1 hc).elim (h.isDigit c) Decimal.isDigit_replicate_zero
    · obtain ⟨c, rest, rfl⟩ := List.exists_cons_of_ne_nil h.ne_nil
      exact h.head_ne
    · obtain rfl := List.mem_singleton.1 hc
      rfl
  · simp [NumberText.chars]
  · rfl
  · refine h.number _ _ 0 (n := digits * 10 ^ zeros * 10) ?_ ?_
    · rw [Decimal.readDigits_append, Decimal.readDigits_append, h.read, Option.bind_some,
        Decimal.readDigits_replicate_zero (by decide)]
      rfl
    · rw [zpow_natCast]
      push_cast
      norm_num
      ring

/-- The point stands between the digits. -/
theorem exists_between (h : ShortestChars x cs digits power) {k : Nat} (hk : k + 1 < cs.length)
    (hpoint : (cs.length : Int) + power = k + 1) :
    ∃ t : NumberText, t.Writes (cs.take (k + 1) ++ '.' :: cs.drop (k + 1)) x := by
  have hdrop : cs.drop (k + 1) ≠ [] := by
    rw [ne_eq, List.drop_eq_nil_iff]
    exact not_le.2 hk
  refine ⟨{ negative := x.isNegative, whole := cs.take (k + 1), fraction := cs.drop (k + 1)
            exponent := [] }, ?_, ?_, ?_, ?_⟩
  · refine ⟨by simp [h.ne_nil], fun c hc => h.isDigit c (List.mem_of_mem_take hc), .inr ?_,
      fun c hc => h.isDigit c (List.mem_of_mem_drop hc), .inl rfl⟩
    obtain ⟨c, rest, rfl⟩ := List.exists_cons_of_ne_nil h.ne_nil
    exact h.head_ne
  · simp only [NumberText.chars, List.isEmpty_iff, hdrop, if_false, if_true, List.append_nil]
    simp
  · simp [hdrop]
  · refine h.number _ _ 0 (n := digits) ?_ ?_
    · rw [List.take_append_drop]
      exact h.read
    · congr 2
      rw [List.length_drop]
      omega

theorem exists_positional (h : ShortestChars x cs digits power) :
    ∃ t : NumberText, t.Writes (Decimal.positional cs ((cs.length : Int) + power)) x := by
  unfold Decimal.positional
  by_cases hpoint : (cs.length : Int) + power ≤ 0
  · rw [if_pos hpoint]
    exact h.exists_below (by omega)
  · rw [if_neg hpoint]
    dsimp only
    by_cases hlong : cs.length ≤ ((cs.length : Int) + power).toNat
    · rw [if_pos hlong]
      obtain ⟨zeros, rfl⟩ : ∃ zeros : Nat, power = zeros := ⟨power.toNat, by omega⟩
      rw [show ((cs.length : Int) + zeros).toNat - cs.length = zeros by omega]
      exact h.exists_above
    · rw [if_neg hlong]
      obtain ⟨k, hk⟩ : ∃ k : Nat, ((cs.length : Int) + power).toNat = k + 1 :=
        ⟨((cs.length : Int) + power).toNat - 1, by omega⟩
      rw [hk]
      exact h.exists_between (by omega) (by omega)

theorem exists_scientific (h : ShortestChars x cs digits power) (layout : Decimal.Layout) :
    ∃ t : NumberText, t.Writes
      (Decimal.scientific layout cs ((cs.length : Int) + power - 1)) x := by
  obtain ⟨c, rest, rfl⟩ := List.exists_cons_of_ne_nil h.ne_nil
  obtain ⟨sign, places, hexponent, hsign, hplacesne, hplaces, hpower⟩ := exponent_signed layout
    (((c :: rest).length : Int) + power - 1)
  have hexponentne : sign ++ places ≠ [] := by simp [hplacesne]
  refine ⟨{ negative := x.isNegative, whole := [c], fraction := rest, exponent := sign ++ places },
    ?_, ?_, ?_, ?_⟩
  · refine ⟨by simp, fun d hd => ?_, .inr (by simpa using h.head_ne),
      fun d hd => h.isDigit d (List.mem_cons_of_mem _ hd),
      .inr ⟨sign, places, rfl, hsign, hplacesne, hplaces⟩⟩
    rw [List.mem_singleton.1 hd]
    exact h.isDigit c List.mem_cons_self
  · have hscientific : Decimal.scientific layout (c :: rest)
        (((c :: rest).length : Int) + power - 1) =
          (if rest.isEmpty then [c] else c :: '.' :: rest) ++ 'e' :: (sign ++ places) := by
      rw [← hexponent]
      cases rest <;> simp [Decimal.scientific]
    rw [hscientific]
    cases rest <;> simp [NumberText.chars, hexponentne]
  · simp [hplacesne]
  · rw [hpower]
    refine h.number [c] rest _ h.read ?_
    congr 2
    rw [Option.getD_some, List.length_cons]
    omega

end ShortestChars

/-- The characters behind the sign in the text of a finite number. -/
def layoutBody (layout : Decimal.Layout) (mantissa : Nat) (exponent : Int) : List Char :=
  let short := Decimal.shortest mantissa exponent
  let cs := digitChars short.digits
  let point := (cs.length : Int) + short.exponent
  if mantissa = 0 then ['0', '.', '0']
  else if layout.pointAbove < point && point <= layout.pointUpTo then Decimal.positional cs point
  else Decimal.scientific layout cs (point - 1)

theorem toList_text {layout : Decimal.Layout} {x : Binary64} {mantissa : Nat} {exponent : Int}
    (hx : x.magnitude = .finite mantissa exponent) :
    (layout.text x).toList =
      (if x.isNegative then ['-'] else []) ++ layoutBody layout mantissa exponent := by
  unfold Decimal.Layout.text
  rw [hx]
  cases x.isNegative <;> simp [layoutBody]

theorem exists_numberText (layout : Decimal.Layout) {x : Binary64} {mantissa : Nat} {exponent : Int}
    (hx : x.magnitude = .finite mantissa exponent) :
    ∃ t : NumberText, t.Writes (layoutBody layout mantissa exponent) x := by
  unfold layoutBody
  by_cases hzero : mantissa = 0
  · subst hzero
    obtain ⟨hcanonical, hword⟩ := Binary64.finite_of_magnitude hx
    obtain rfl : exponent = -1074 := hcanonical.full.resolve_left (by decide)
    have hzero : Binary64.zero x.isNegative = x := by
      have hsame := Binary64.ofWord_magnitudeWord x
      rw [← hword] at hsame
      exact hsame
    refine ⟨{ negative := x.isNegative, whole := ['0'], fraction := ['0'], exponent := [] },
      ⟨by simp, fun c hc => ?_, .inl rfl, fun c hc => ?_, .inl rfl⟩,
      by simp [NumberText.chars], rfl, ?_⟩
    · obtain rfl := List.mem_singleton.1 hc
      rfl
    · obtain rfl := List.mem_singleton.1 hc
      rfl
    · exact congrArg some hzero
  · have hshortest := shortestChars hx (Nat.pos_of_ne_zero hzero)
    dsimp only
    rw [if_neg hzero]
    split
    · exact hshortest.exists_positional
    · exact hshortest.exists_scientific layout

theorem readNumber?_realText (layout : Decimal.Layout) {x : Binary64} (hx : x.isFinite = true)
    {c : Cursor} {rest : List Char} (hrest : Stops continuesNumber rest)
    (hc : c.rest = (layout.text x).toList ++ rest) :
    readNumber? c = some (.real x, c.skip (layout.text x).toList.length) := by
  obtain ⟨mantissa, exponent, hmagnitude⟩ := Binary64.exists_magnitude_of_isFinite hx
  obtain ⟨t, ht⟩ := exists_numberText layout hmagnitude
  rw [toList_text hmagnitude, ← ht.chars] at hc ⊢
  rw [readNumber?_chars ht.regular hrest hc, ht.isReal, if_neg Bool.false_ne_true, ht.number]
  rfl

end Clearance.Json
