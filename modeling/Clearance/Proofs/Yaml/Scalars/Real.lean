import Clearance.Proofs.Text.Front
import Clearance.Proofs.Yaml.Scalars.Whole

/-!
# Numbers with a point read from plain scalars

A plain scalar with the form of a number with a point is read as one.  The only exception is a
number in base sixty with so many places that the weight of the highest is beyond all numbers.
-/

namespace Clearance.Yaml

open Decimal (digitValue? isDigit splitSign)

namespace Content

/-! ## Cleaned numbers -/

/-- A number as the reader of those with a point takes it: without low lines and in lower case. -/
def cleaned (cs : List Char) : List Char :=
  (cs.filter (· != '_')).map Text.lower

theorem cleaned_append (xs ys : List Char) : cleaned (xs ++ ys) = cleaned xs ++ cleaned ys := by
  rw [cleaned, List.filter_append, List.map_append]
  rfl

theorem cleaned_cons {c : Char} (hline : (c != '_') = true) (cs : List Char) :
    cleaned (c :: cs) = Text.lower c :: cleaned cs := by
  simp [cleaned, hline]

/-- What is left of a text without low lines has no other case. -/
theorem cleaned_of_fixed {cs : List Char}
    (h : ∀ c ∈ cs.filter (· != '_'), Text.lower c = c) : cleaned cs = cs.filter (· != '_') :=
  (List.map_congr_left h).trans (List.map_id _)

theorem digit_or_point_facts {c : Char} (h : isDigit c = true ∨ c = '.') :
    IsInk c ∧ (c ≠ '-' ∧ c ≠ '+') ∧ (c.toLower ≠ 'i' ∧ c.toLower ≠ 'n') ∧
      Text.lower c = c := by
  have hlt : c.toNat < 127 := by
    rcases h with h | rfl
    · obtain ⟨d, hd⟩ := Option.isSome_iff_exists.1 (digitValue?_isSome_of_isDigit h)
      exact toNat_lt_of_digitValue? hd
    · decide
  exact forall_ascii (P := fun c => isDigit c = true ∨ c = '.' ->
    IsInk c ∧ (c ≠ '-' ∧ c ≠ '+') ∧ (c.toLower ≠ 'i' ∧ c.toLower ≠ 'n') ∧
      Text.lower c = c) (by decide +kernel) hlt h

theorem ink_of_isDigit {c : Char} (h : isDigit c = true) : IsInk c :=
  (digit_or_point_facts (.inl h)).1

theorem lower_of_isDigit {c : Char} (h : isDigit c = true) : Text.lower c = c :=
  (digit_or_point_facts (.inl h)).2.2.2

theorem cleaned_run {cs : List Char} (h : ∀ c ∈ cs, Form.isDigitOrLine c = true) :
    ∀ c ∈ cleaned cs, isDigit c = true := by
  have hdigits : ∀ c ∈ cs.filter (· != '_'), isDigit c = true :=
    digits_of_run fun c hc => by simpa [Form.isDigitOrLine] using h c hc
  rw [cleaned_of_fixed fun c hc => lower_of_isDigit (hdigits c hc)]
  exact hdigits

/-! ## Exponents, fractions and decimals -/

/-- An exponent in lower case: its letter, a sign and digits. -/
inductive ExponentText : List Char -> Prop where
  | absent : ExponentText []
  | signed {sign : Char} {digits : List Char} (marked : sign = '-' ∨ sign = '+')
      (numeral : Digits digits) : ExponentText ('e' :: sign :: digits)

/-- Digits, or digits around a point with an exponent behind them. -/
inductive DecimalText : List Char -> Prop where
  | whole {digits : List Char} (numeral : Digits digits) : DecimalText digits
  | pointed {front back exponent : List Char} (numeral : Digits (front ++ back))
      (power : ExponentText exponent) : DecimalText (front ++ '.' :: (back ++ exponent))

theorem exponentText_of_isExponent {cs : List Char} (h : Form.isExponent cs = true) :
    ExponentText (cleaned cs) := by
  match cs with
  | [] => exact .absent
  | [_] => cases h
  | e :: sign :: digits =>
      simp only [Form.isExponent, Bool.and_eq_true, Bool.or_eq_true, beq_iff_eq] at h
      obtain ⟨⟨he, hsign⟩, hrun⟩ := h
      simp only [Form.isRun, Bool.and_eq_true, List.all_eq_true] at hrun
      have hkept : cleaned digits = digits := by
        have hlines : digits.filter (· != '_') = digits :=
          List.filter_eq_self.2 fun c hc => ne_line_of_isDigit (hrun.2 c hc)
        rw [cleaned_of_fixed, hlines]
        rw [hlines]
        exact fun c hc => lower_of_isDigit (hrun.2 c hc)
      have hfront : cleaned [e, sign] = ['e', sign] := by
        rcases he with rfl | rfl <;> rcases hsign with rfl | rfl <;> decide +kernel
      have hall : cleaned (e :: sign :: digits) = 'e' :: sign :: digits := by
        rw [show e :: sign :: digits = [e, sign] ++ digits from rfl, cleaned_append, hfront, hkept]
        rfl
      rw [hall]
      exact .signed hsign ⟨by simpa using hrun.1, hrun.2⟩

/-- A fraction is digits with an exponent behind them. -/
theorem cleaned_fraction {cs : List Char} (h : Form.isFraction cs = true) :
    ∃ back exponent, cleaned cs = back ++ exponent ∧ (∀ c ∈ back, isDigit c = true) ∧
      ExponentText exponent := by
  refine ⟨cleaned (cs.takeWhile Form.isDigitOrLine), cleaned (cs.dropWhile Form.isDigitOrLine),
    ?_, ?_, exponentText_of_isExponent h⟩
  · rw [← cleaned_append, List.takeWhile_append_dropWhile]
  · exact cleaned_run (List.all_eq_true.1 List.all_takeWhile)

/-! ## Decimals read -/

theorem Digits.ink {cs : List Char} (h : Digits cs) : ∀ c ∈ cs, IsInk c :=
  fun c hc => ink_of_isDigit (h.all c hc)

theorem ExponentText.ink {cs : List Char} (h : ExponentText cs) : ∀ c ∈ cs, IsInk c := by
  cases h with
  | absent => simp
  | @signed sign _ marked numeral =>
      have hsign : IsInk sign := by
        rcases marked with rfl | rfl <;> decide
      exact List.forall_mem_cons.2
        ⟨by decide, List.forall_mem_cons.2 ⟨hsign, numeral.ink⟩⟩

theorem ExponentText.ink_point {back exponent : List Char} (hback : ∀ c ∈ back, isDigit c = true)
    (h : ExponentText exponent) : ∀ c ∈ '.' :: (back ++ exponent), IsInk c := by
  have hdigits : ∀ c ∈ back, IsInk c := fun c hc => ink_of_isDigit (hback c hc)
  exact List.forall_mem_cons.2 ⟨by decide, List.forall_mem_append.2 ⟨hdigits, h.ink⟩⟩

theorem DecimalText.ink {cs : List Char} (h : DecimalText cs) : ∀ c ∈ cs, IsInk c := by
  cases h with
  | whole numeral => exact numeral.ink
  | pointed numeral power =>
      obtain ⟨hfront, -⟩ := List.forall_mem_append.1 numeral.ink
      obtain ⟨-, hback⟩ := List.forall_mem_append.1 numeral.all
      exact List.forall_mem_append.2 ⟨hfront, power.ink_point hback⟩

/-- A decimal starts with a digit or the point. -/
theorem DecimalText.head {cs : List Char} (h : DecimalText cs) :
    ∃ c rest, cs = c :: rest ∧ (isDigit c = true ∨ c = '.') := by
  cases h with
  | whole numeral =>
      obtain ⟨c, rest, rfl⟩ := List.exists_cons_of_ne_nil numeral.ne_nil
      exact ⟨c, rest, rfl, .inl (numeral.all c List.mem_cons_self)⟩
  | @pointed front _ _ numeral power =>
      cases front with
      | nil => exact ⟨_, _, rfl, .inr rfl⟩
      | cons c rest => exact ⟨c, _, rfl, .inl (numeral.all c List.mem_cons_self)⟩

theorem Digits.exists_readDigits {cs : List Char} (h : Digits cs) :
    ∃ n, Decimal.readDigits 10 0 cs = some n :=
  Option.isSome_iff_exists.1
    (isSome_readDigits (fun c hc => digitValue?_isSome_of_isDigit (h.all c hc)) 0)

theorem readInt?_signed {sign : Char} {digits : List Char} (marked : sign = '-' ∨ sign = '+')
    (h : Digits digits) : ∃ n, Decimal.readInt? (sign :: digits) = some n := by
  obtain ⟨n, hread⟩ := h.exists_readDigits
  have hnat := Decimal.readNat?_of_readDigits h.ne_nil hread
  rcases marked with rfl | rfl
  · exact ⟨_, Decimal.readInt?_of_splitSign rfl hnat⟩
  · exact ⟨_, Decimal.readInt?_of_splitSign rfl hnat⟩

theorem DecimalText.split {cs : List Char} (h : DecimalText cs) (negative : Bool) :
    ∃ p, Decimal.splitUnsigned? negative cs = some p ∧ Digits (p.whole ++ p.fraction) := by
  cases h with
  | whole numeral =>
      have htake : cs.takeWhile isDigit = cs := by
        simpa using Text.takeWhile_append_stop numeral.all (Text.stops_nil isDigit)
      have hdrop : cs.dropWhile isDigit = [] := by
        simpa using Text.dropWhile_append_stop numeral.all (Text.stops_nil isDigit)
      have hne : cs.isEmpty = false := by simpa using numeral.ne_nil
      refine ⟨{ negative, whole := cs, fraction := [], exponent := 0 }, ?_, by simpa using numeral⟩
      simp [Decimal.splitUnsigned?, htake, hdrop, hne]
  | @pointed front back exponent numeral power =>
      obtain ⟨hfront, hback⟩ := List.forall_mem_append.1 numeral.all
      have hpoint : Text.Stops isDigit ('.' :: (back ++ exponent)) :=
        Text.stops_cons.2 (by decide)
      have hstop : Text.Stops isDigit exponent := by
        cases power with
        | absent => exact Text.stops_nil _
        | signed _ _ => exact Text.stops_cons.2 (by decide)
      have hne : (front.isEmpty && back.isEmpty) = false := by
        simpa using numeral.ne_nil
      simp only [Decimal.splitUnsigned?, Text.takeWhile_append_stop hfront hpoint,
        Text.dropWhile_append_stop hfront hpoint, Text.takeWhile_append_stop hback hstop,
        Text.dropWhile_append_stop hback hstop, hne]
      cases power with
      | absent => exact ⟨_, rfl, numeral⟩
      | signed marked digits =>
          obtain ⟨n, hn⟩ := readInt?_signed marked digits
          simp only [hn]
          exact ⟨_, rfl, numeral⟩

/-- A decimal is no word. -/
theorem DecimalText.lowerAscii_ne {cs : List Char} (h : DecimalText cs) (word : String)
    (hword : word.toList.head? = some 'i' ∨ word.toList.head? = some 'n') :
    String.ofList (Decimal.lowerAscii cs) ≠ word := by
  obtain ⟨c, rest, rfl, hc⟩ := h.head
  have hfacts := (digit_or_point_facts hc).2.2.1
  rintro rfl
  simp [Decimal.lowerAscii, hfacts.1, hfacts.2] at hword

theorem DecimalText.read {cs : List Char} (h : DecimalText cs) : ∃ x, realOf cs = .ok x := by
  have hascii := asciiDigits_strip h.ink
  have hsign : splitSign cs = (false, cs) := by
    obtain ⟨c, rest, rfl, hc⟩ := h.head
    exact splitSign_of_head fun d hd => Option.some.inj hd ▸ (digit_or_point_facts hc).2.1
  obtain ⟨p, hsplit, hdigits⟩ := h.split false
  obtain ⟨n, hn⟩ := hdigits.exists_readDigits
  have hinf := h.lowerAscii_ne "inf" (.inl rfl)
  have hinfinity := h.lowerAscii_ne "infinity" (.inl rfl)
  have hnan := h.lowerAscii_ne "nan" (.inr rfl)
  simp [realOf, hascii, Decimal.readFree?, hsign, hinf, hinfinity, hnan, hsplit,
    Decimal.Parts.number?, hn]

/-! ## Numbers with a point by their forms -/

section

variable {text : String} {negative : Bool} {body : List Char}

/-- The names of the numbers that are not finite are read. -/
theorem within_real_word (hnumber : splitNumber (cleaned text.toList) = .ok (negative, body))
    (h : body = ".inf".toList ∨ body = ".nan".toList) : Within (PlainFault .real) (real text) := by
  unfold real
  rw [← cleaned, hnumber]
  rcases h with rfl | rfl
  · exact within_ok _
  · exact within_ok _

/-- A number whose places are decimals is read, unless it has too many of them. -/
theorem within_real_places (hnumber : splitNumber (cleaned text.toList) = .ok (negative, body))
    (h : ∀ piece ∈ Form.splitColons body, DecimalText piece) :
    Within (PlainFault .real) (real text) := by
  by_cases hword : body = ".inf".toList ∨ body = ".nan".toList
  · exact within_real_word hnumber hword
  · obtain ⟨hinf, hnan⟩ := not_or.1 hword
    unfold real
    rw [← cleaned, hnumber]
    simp only [bind, Except.bind, beq_eq_false_iff_ne.2 hinf, beq_eq_false_iff_ne.2 hnan,
      Bool.false_eq_true, if_false]
    by_cases hcolon : ':' ∈ body
    · have hplaces : Within (PlainFault .real) ((Form.splitColons body).mapM realOf) :=
        within_mapM fun piece hpiece => by
          obtain ⟨x, hx⟩ := (h piece hpiece).read
          rw [hx]
          exact within_ok x
      rw [if_pos (by simpa using hcolon)]
      cases hread : (Form.splitColons body).mapM realOf with
      | error f => exact within_error (hplaces f hread)
      | ok places =>
          simp only
          split
          · exact within_error .highPlace
          · exact within_ok _
    · rw [Form.splitColons, List.splitOn_eq_singleton hcolon] at h
      obtain ⟨x, hx⟩ := (h body List.mem_cons_self).read
      rw [if_neg (by simpa using hcolon), hx]
      exact within_ok _

end

theorem splitNumber_cleaned {cs rest : List Char} {c : Char} (h : Form.unsigned cs = c :: rest)
    (hc : isDigit c = true ∨ c = '.') :
    ∃ negative, splitNumber (cleaned cs) = .ok (negative, cleaned (c :: rest)) := by
  obtain ⟨-, hsign, -, hlower⟩ := digit_or_point_facts hc
  have hline : (c != '_') = true := by
    rcases hc with hc | rfl
    · exact ne_line_of_isDigit hc
    · decide
  obtain ⟨negative, hnumber⟩ :=
    splitNumber_clean (f := Text.lower) (by decide +kernel) (by decide +kernel) h hlower hline hsign
  rw [cleaned_cons hline, hlower]
  exact ⟨negative, hnumber⟩

/-- The places of a number without its low lines are digits, also in lower case. -/
theorem Places.cleaned {cs : List Char} (h : Places (Form.splitColons cs)) :
    ∀ piece ∈ Form.splitColons (cleaned cs), Digits piece := by
  have hfixed : ∀ c ∈ cs.filter (· != '_'), Text.lower c = c := by
    intro c hc
    by_cases hcolon : c = ':'
    · subst hcolon
      decide +kernel
    · obtain ⟨piece, hpiece, hmem⟩ := exists_piece hc hcolon
      exact lower_of_isDigit ((h.digits piece hpiece).all c hmem)
  rw [cleaned_of_fixed hfixed]
  exact h.digits

/-- Places in front of a point, and a fraction behind it. -/
theorem within_real_pointed {text : String} {front back : List Char}
    (hbody : Form.unsigned text.toList = front ++ '.' :: back)
    (hfront : Places (Form.splitColons front)) (hback : Form.isFraction back = true) :
    Within (PlainFault .real) (real text) := by
  obtain ⟨fraction, exponent, hclean, hdigits, hpower⟩ := cleaned_fraction hback
  have hall : cleaned (front ++ '.' :: back) = cleaned front ++ '.' :: (fraction ++ exponent) := by
    rw [cleaned_append, ← hclean]
    rfl
  have hhead : ∃ c more, front = c :: more ∧ isDigit c = true := by
    cases front with
    | nil => cases hfront.first
    | cons c more => exact ⟨c, more, rfl, hfront.isDigit_head⟩
  obtain ⟨c, more, hcons, hc⟩ := hhead
  have hstart : Form.unsigned text.toList = c :: (more ++ '.' :: back) := by
    rw [hbody, hcons]
    rfl
  obtain ⟨negative, hnumber⟩ := splitNumber_cleaned hstart (.inl hc)
  rw [← List.cons_append, ← hcons, hall] at hnumber
  apply within_real_places hnumber
  have hcolon : ':' ∉ '.' :: (fraction ++ exponent) :=
    fun hmem => (hpower.ink_point hdigits ':' hmem).2.2 rfl
  obtain ⟨init, last, hsplit, happend⟩ := splitOn_append hcolon (cleaned front)
  have hplaces := hfront.cleaned
  rw [Form.splitColons, hsplit] at hplaces
  rw [Form.splitColons, happend]
  obtain ⟨hinit, hlast⟩ := List.forall_mem_append.1 hplaces
  refine List.forall_mem_append.2 ⟨fun piece hpiece => .whole (hinit piece hpiece), ?_⟩
  have hlast := hlast last List.mem_cons_self
  have hnumeral : Digits (last ++ fraction) :=
    ⟨by simp [hlast.ne_nil], List.forall_mem_append.2 ⟨hlast.all, hdigits⟩⟩
  simpa using DecimalText.pointed hnumeral hpower

/-- A point, a digit and a fraction. -/
theorem within_real_point {text : String} {c : Char} {rest : List Char}
    (hbody : text.toList = '.' :: c :: rest) (hc : isDigit c = true)
    (hrest : Form.isFraction rest = true) : Within (PlainFault .real) (real text) := by
  obtain ⟨fraction, exponent, hclean, hdigits, hpower⟩ := cleaned_fraction hrest
  have hstart : Form.unsigned text.toList = '.' :: c :: rest := by
    rw [hbody]
    rfl
  obtain ⟨negative, hnumber⟩ := splitNumber_cleaned hstart (.inr rfl)
  have hlower := lower_of_isDigit hc
  have hpoint : Text.lower '.' = '.' := by decide +kernel
  rw [cleaned_cons (by decide), cleaned_cons (ne_line_of_isDigit hc), hpoint, hlower, hclean]
    at hnumber
  have hnumeral : Digits ([] ++ c :: fraction) :=
    ⟨List.cons_ne_nil _ _, List.forall_mem_cons.2 ⟨hc, hdigits⟩⟩
  have hdecimal := DecimalText.pointed hnumeral hpower
  have hcolon : ':' ∉ '.' :: c :: (fraction ++ exponent) :=
    fun hmem => (hdecimal.ink ':' hmem).2.2 rfl
  apply within_real_places hnumber
  rw [Form.splitColons, List.splitOn_eq_singleton hcolon]
  exact List.forall_mem_singleton.2 hdecimal

theorem eq_before_point {cs : List Char} (h : '.' ∈ cs) :
    cs = cs.takeWhile (· != '.') ++ '.' :: (cs.dropWhile (· != '.')).drop 1 := by
  induction cs with
  | nil => cases h
  | cons c rest ih =>
      by_cases hc : c = '.'
      · simp [hc]
      · have hrest : '.' ∈ rest := (List.mem_cons.1 h).resolve_left (Ne.symm hc)
        have hkeep : (c != '.') = true := bne_iff_ne.2 hc
        simp only [List.takeWhile_cons, List.dropWhile_cons, hkeep, if_true, List.cons_append]
        exact congrArg (c :: ·) (ih hrest)

theorem places_of_isNumeral {cs : List Char} (h : Form.isNumeral cs = true) :
    Places (Form.splitColons cs) := by
  have hcolon : ':' ∉ cs := by
    intro hmem
    cases cs with
    | nil => cases h
    | cons c rest =>
        simp only [Form.isNumeral, Bool.and_eq_true, List.all_eq_true] at h
        rcases List.mem_cons.1 hmem with rfl | hin
        · exact absurd h.1 (by decide)
        · exact absurd (h.2 ':' hin) (by decide)
  rw [Form.splitColons, List.splitOn_eq_singleton hcolon]
  exact ⟨h, rfl⟩

theorem isFraction_of_all {cs : List Char} (h : cs.all Form.isDigitOrLine = true) :
    Form.isFraction cs = true := by
  have hdrop : cs.dropWhile Form.isDigitOrLine = [] := by
    simpa using Text.dropWhile_append_stop (List.all_eq_true.1 h) (Text.stops_nil _)
  rw [Form.isFraction, hdrop]
  rfl

/-- A number that is not finite is read by its name, whatever the case of its letters. -/
theorem within_real_name {text : String} {name : List Char}
    (hbody : Form.unsigned text.toList = '.' :: name)
    (h : cleaned ('.' :: name) = ".inf".toList ∨ cleaned ('.' :: name) = ".nan".toList) :
    Within (PlainFault .real) (real text) := by
  obtain ⟨negative, hnumber⟩ := splitNumber_cleaned hbody (.inr rfl)
  exact within_real_word hnumber h

/-- What has the form of a number with a point is one, or it has too many places. -/
theorem within_real {text : String} (h : Form.isReal text.toList = true) :
    Within (PlainFault .real) (real text) := by
  simp only [Form.isReal, Bool.or_eq_true, Bool.and_eq_true, List.contains_eq_mem,
    decide_eq_true_eq] at h
  rcases h with (((hplain | hpoint) | hsixties) | hinf) | hnan
  · obtain ⟨⟨hdot, hfront⟩, hback⟩ := hplain
    exact within_real_pointed (eq_before_point hdot) (places_of_isNumeral hfront) hback
  · split at hpoint
    · rename_i c rest hbody
      obtain ⟨hc, hrest⟩ := Bool.and_eq_true_iff.1 hpoint
      exact within_real_point hbody hc hrest
    · cases hpoint
  · obtain ⟨⟨⟨⟨hdot, -⟩, hfirst⟩, hothers⟩, hback⟩ := hsixties
    exact within_real_pointed (eq_before_point hdot) ⟨hfirst, hothers⟩ (isFraction_of_all hback)
  · have hclean : ∀ word ∈ [".inf", ".Inf", ".INF"], ∃ name, word.toList = '.' :: name ∧
        cleaned ('.' :: name) = ".inf".toList := by
      simp only [List.forall_mem_cons]
      exact ⟨⟨_, rfl, by decide +kernel⟩, ⟨_, rfl, by decide +kernel⟩, ⟨_, rfl, by decide +kernel⟩,
        by simp⟩
    obtain ⟨name, hword, hname⟩ := hclean _ hinf
    rw [String.toList_ofList] at hword
    exact within_real_name hword (.inl hname)
  · have hclean : ∀ word ∈ [".nan", ".NaN", ".NAN"], ∃ name,
        Form.unsigned word.toList = '.' :: name ∧ cleaned ('.' :: name) = ".nan".toList := by
      simp only [List.forall_mem_cons]
      exact ⟨⟨_, rfl, by decide +kernel⟩, ⟨_, rfl, by decide +kernel⟩, ⟨_, rfl, by decide +kernel⟩,
        by simp⟩
    obtain ⟨name, hword, hname⟩ := hclean _ hnan
    rw [String.toList_ofList] at hword
    exact within_real_name hword (.inr hname)

end Content

end Clearance.Yaml
