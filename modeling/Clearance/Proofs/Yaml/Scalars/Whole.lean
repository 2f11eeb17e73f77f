import Clearance.Yaml.Node.Scalar
import Clearance.Proofs.Decimal.Digits

/-!
# Whole numbers read from plain scalars

A plain scalar with the form of a whole number is read as one, in base two, eight, ten, sixteen or
sixty.  The exceptions are a mark that no digit follows and more digits than are read.
-/

namespace Clearance.Yaml

open Decimal (digitValue? isDigit splitSign)

/-- The faults that plain scalars of a tag may have although their form is that of the tag. -/
inductive PlainFault : Tag -> ContentFault -> Prop where
  /-- No digit follows the mark of a whole number in base two or sixteen. -/
  | digitless {base : Nat} (marked : base = 2 ∨ base = 16) : PlainFault .int (.whole base "")
  | longWhole {digits : Nat} (long : Decimal.mostDigits < digits) :
      PlainFault .int (.longWhole digits)
  | highPlace : PlainFault .real .highPlace
  | moment (fault : Time.IsoFault) : PlainFault .timestamp (.moment fault)

namespace Content

/-! ## Results and their faults -/

section

variable {α β : Type} {P : ContentFault -> Prop}

/-- A result, or a fault of a kind. -/
def Within (P : ContentFault -> Prop) (r : Except ContentFault α) : Prop :=
  ∀ f, r = .error f -> P f

theorem within_ok (a : α) : Within P (.ok a) := by
  intro f h
  cases h

theorem within_error {f : ContentFault} (h : P f) :
    Within P (.error f : Except ContentFault α) := by
  intro _ heq
  cases heq
  exact h

theorem within_of_isOk {r : Except ContentFault α} (h : r.isOk = true) : Within P r := by
  cases r with
  | ok a => exact within_ok a
  | error f => cases h

theorem Within.mono {Q : ContentFault -> Prop} {r : Except ContentFault α} (h : Within P r)
    (hPQ : ∀ f, P f -> Q f) : Within Q r :=
  fun f hf => hPQ f (h f hf)

theorem within_mapError {ε : Type} {r : Except ε α} {g : ε -> ContentFault} (h : ∀ e, P (g e)) :
    Within P (r.mapError g) := by
  cases r with
  | ok a => exact within_ok a
  | error e => exact within_error (h e)

theorem Within.map {r : Except ContentFault α} (h : Within P r) (f : α -> β) :
    Within P (r.map f) := by
  cases r with
  | ok a => exact within_ok (f a)
  | error fault => exact within_error (h fault rfl)

theorem Within.bind {r : Except ContentFault α} {f : α -> Except ContentFault β}
    (h : Within P r) (hf : ∀ a, Within P (f a)) : Within P (r >>= f) := by
  cases r with
  | ok a => exact hf a
  | error fault => exact within_error (h fault rfl)

theorem within_mapM {f : α -> Except ContentFault β} {as : List α}
    (h : ∀ a ∈ as, Within P (f a)) : Within P (as.mapM f) := by
  induction as with
  | nil => exact within_ok []
  | cons a rest ih =>
      obtain ⟨hfirst, hrest⟩ := List.forall_mem_cons.1 h
      rw [List.mapM_cons]
      exact hfirst.bind fun b => (ih hrest).bind fun bs => within_ok (b :: bs)

end

/-! ## Characters of numbers -/

/--
A visible character of ASCII, which the readers of numbers neither drop nor replace, and at which
they do not part a number.
-/
def IsInk (c : Char) : Prop :=
  33 ≤ c.toNat ∧ c.toNat < 127 ∧ c ≠ ':'

instance (c : Char) : Decidable (IsInk c) :=
  inferInstanceAs (Decidable (_ ∧ _))

/-- What holds of the characters of ASCII one by one holds of them all. -/
theorem forall_ascii {P : Char -> Prop} (h : ∀ n < 127, P (Char.ofNat n)) {c : Char}
    (hc : c.toNat < 127) : P c := by
  have hn := h c.toNat hc
  rwa [Char.ofNat_toNat] at hn

theorem ink_facts {c : Char} (h : IsInk c) :
    Text.isBlank c = false ∧
      ((Text.decimalValue? c).map fun d => Char.ofNat (48 + d)).getD c = c := by
  have hall := forall_ascii (P := fun c => 33 ≤ c.toNat -> Text.isBlank c = false ∧
    ((Text.decimalValue? c).map fun d => Char.ofNat (48 + d)).getD c = c) (by decide +kernel) h.2.1
  exact hall h.1

theorem dropWhile_isBlank {cs : List Char} (h : ∀ c ∈ cs, IsInk c) :
    cs.dropWhile Text.isBlank = cs := by
  cases cs with
  | nil => rfl
  | cons c rest => simp [(ink_facts (h c List.mem_cons_self)).1]

theorem asciiDigits_strip {cs : List Char} (h : ∀ c ∈ cs, IsInk c) :
    asciiDigits (Text.strip cs) = cs := by
  have hreverse : ∀ c ∈ cs.reverse, IsInk c := fun c hc => h c (List.mem_reverse.1 hc)
  rw [Text.strip, dropWhile_isBlank h, dropWhile_isBlank hreverse, List.reverse_reverse,
    asciiDigits]
  exact (List.map_congr_left fun c hc => (ink_facts (h c hc)).2).trans (List.map_id cs)

theorem splitSign_of_head {cs : List Char}
    (h : ∀ c, cs.head? = some c -> c ≠ '-' ∧ c ≠ '+') : splitSign cs = (false, cs) := by
  unfold splitSign
  split
  · exact absurd rfl (h '-' rfl).1
  · exact absurd rfl (h '+' rfl).2
  · rfl

/-! ## Whole numbers -/

/-- The bases in which whole numbers are read. -/
def bases : List Nat := [2, 8, 10, 16]

theorem toNat_lt_of_digitValue? {base d : Nat} {c : Char} (h : digitValue? base c = some d) :
    c.toNat < 127 := by
  obtain ⟨hvalue, -⟩ := Option.filter_eq_some_iff.1 h
  by_cases hc : c.toNat < 127
  · exact hc
  · rw [if_neg (by simp; omega), if_neg (by simp; omega), if_neg (by simp; omega)] at hvalue
    cases hvalue

/-- A digit of a base is ink, no sign, and not the letter that marks the base. -/
theorem digit_facts {base : Nat} (hbase : base ∈ bases) {c : Char}
    (h : (digitValue? base c).isSome) :
    IsInk c ∧ (c ≠ '-' ∧ c ≠ '+') ∧ (baseLetter? base == some c.toLower) = false := by
  obtain ⟨d, hd⟩ := Option.isSome_iff_exists.1 h
  have hlt := toNat_lt_of_digitValue? hd
  have hall := forall_ascii (P := fun c => ∀ base ∈ bases, (digitValue? base c).isSome ->
    IsInk c ∧ (c ≠ '-' ∧ c ≠ '+') ∧ (baseLetter? base == some c.toLower) = false)
    (by decide +kernel) hlt
  exact hall base hbase h

theorem isSome_readDigits {base : Nat} {cs : List Char}
    (h : ∀ c ∈ cs, (digitValue? base c).isSome) (acc : Nat) :
    (Decimal.readDigits base acc cs).isSome := by
  induction cs generalizing acc with
  | nil => rfl
  | cons c rest ih =>
      obtain ⟨hc, hrest⟩ := List.forall_mem_cons.1 h
      obtain ⟨d, hd⟩ := Option.isSome_iff_exists.1 hc
      simp only [Decimal.readDigits, hd]
      exact ih hrest _

/-- Digits of a base are read in it. -/
theorem within_wholeOf {base : Nat} (hbase : base ∈ bases) {cs : List Char} (hne : cs ≠ [])
    (h : ∀ c ∈ cs, (digitValue? base c).isSome) :
    Within (PlainFault .int) (wholeOf base cs) := by
  have hascii : asciiDigits (Text.strip cs) = cs :=
    asciiDigits_strip fun c hc => (digit_facts hbase (h c hc)).1
  have hsign : splitSign cs = (false, cs) :=
    splitSign_of_head fun c hc => (digit_facts hbase (h c (List.mem_of_mem_head? hc))).2.1
  have hmark : withoutMark base cs = cs := by
    unfold withoutMark
    split
    · rename_i c rest
      rw [(digit_facts hbase (h c (by simp))).2.2]
      rfl
    · rfl
  obtain ⟨n, hread⟩ := Option.isSome_iff_exists.1 (isSome_readDigits h 0)
  have hnat := Decimal.readNat?_of_readDigits hne hread
  simp only [wholeOf, hascii, hsign, hmark, hnat]
  split
  · rename_i hlong
    exact within_error (.longWhole hlong.2)
  · exact within_ok _

/-! ## Runs and places -/

theorem digitValue?_isSome_of_isDigit {c : Char} (h : isDigit c = true) :
    (digitValue? 10 c).isSome := by
  rw [Decimal.digitValue?_of_isDigit h]
  rfl

/-- What is left of a run of digits and low lines without the low lines is digits. -/
theorem digits_of_run {p : Char -> Bool} {cs : List Char}
    (h : ∀ c ∈ cs, p c = true ∨ c = '_') : ∀ c ∈ cs.filter (· != '_'), p c = true := by
  intro c hc
  obtain ⟨hmem, hline⟩ := List.mem_filter.1 hc
  exact (h c hmem).resolve_right (by simpa using hline)

theorem splitOn_filter {p : Char -> Bool} {a : Char} (ha : p a = true) (cs : List Char) :
    (cs.filter p).splitOn a = (cs.splitOn a).map (List.filter p) := by
  induction cs with
  | nil => rfl
  | cons c rest ih =>
      rw [List.splitOn_cons_eq_if_modifyHead]
      by_cases hc : c = a
      · subst hc
        simp [ha, List.splitOn_cons_eq_if_modifyHead, ih]
      · obtain ⟨first, more, hsplit⟩ := List.exists_cons_of_ne_nil (List.splitOn_ne_nil a rest)
        rw [hsplit] at ih ⊢
        cases hp : p c <;> simp [hp, hc, List.splitOn_cons_eq_if_modifyHead, ih]

/-- Text behind the last separator goes on the last piece. -/
theorem splitOn_append {a : Char} {ys : List Char} (hys : a ∉ ys) (xs : List Char) :
    ∃ init last, xs.splitOn a = init ++ [last] ∧ (xs ++ ys).splitOn a = init ++ [last ++ ys] := by
  induction xs with
  | nil => exact ⟨[], [], rfl, by simp [List.splitOn_eq_singleton hys]⟩
  | cons c rest ih =>
      obtain ⟨init, last, hrest, happend⟩ := ih
      simp only [List.cons_append, List.splitOn_cons_eq_if_modifyHead, hrest, happend]
      by_cases hc : c = a
      · exact ⟨[] :: init, last, by simp [hc], by simp [hc]⟩
      · cases init with
        | nil => exact ⟨[], c :: last, by simp [hc], by simp [hc]⟩
        | cons first more => exact ⟨(c :: first) :: more, last, by simp [hc], by simp [hc]⟩

/-- What is not a separator is in one of the pieces. -/
theorem exists_piece {a c : Char} {cs : List Char} (h : c ∈ cs) (hne : c ≠ a) :
    ∃ piece ∈ cs.splitOn a, c ∈ piece := by
  induction cs with
  | nil => cases h
  | cons d rest ih =>
      obtain ⟨first, more, hsplit⟩ := List.exists_cons_of_ne_nil (List.splitOn_ne_nil a rest)
      rw [List.splitOn_cons_eq_if_modifyHead]
      rw [hsplit] at ih ⊢
      by_cases hd : d = a
      · have hin : c ∈ rest := (List.mem_cons.1 h).resolve_left fun heq => hne (heq.trans hd)
        obtain ⟨piece, hpiece, hc⟩ := ih hin
        refine ⟨piece, ?_, hc⟩
        rw [if_pos (beq_iff_eq.2 hd)]
        exact List.mem_cons_of_mem _ hpiece
      · rw [if_neg (by simpa using hd), List.modifyHead_cons]
        cases List.mem_cons.1 h with
        | inl heq => exact ⟨d :: first, List.mem_cons_self, heq ▸ List.mem_cons_self⟩
        | inr hin =>
            obtain ⟨piece, hpiece, hc⟩ := ih hin
            cases List.mem_cons.1 hpiece with
            | inl heq =>
                exact ⟨d :: first, List.mem_cons_self, List.mem_cons_of_mem _ (heq ▸ hc)⟩
            | inr hmore => exact ⟨piece, List.mem_cons_of_mem _ hmore, hc⟩

/-! ## Whole numbers by their forms -/

/-- Decimal digits, of which there are some. -/
structure Digits (cs : List Char) : Prop where
  ne_nil : cs ≠ []
  all : ∀ c ∈ cs, isDigit c = true

theorem Digits.within {cs : List Char} (h : Digits cs) :
    Within (PlainFault .int) (wholeOf 10 cs) :=
  within_wholeOf (by decide) h.ne_nil fun c hc => digitValue?_isSome_of_isDigit (h.all c hc)

theorem ne_line_of_isDigit {c : Char} (h : isDigit c = true) : (c != '_') = true := by
  rw [bne_iff_ne]
  rintro rfl
  exact absurd h (by decide)

theorem ne_sign_of_isDigit {c : Char} (h : isDigit c = true) : c ≠ '-' ∧ c ≠ '+' := by
  constructor
  · rintro rfl
    exact absurd h (by decide)
  · rintro rfl
    exact absurd h (by decide)

theorem digits_of_isNumeral {cs : List Char} (h : Form.isNumeral cs = true) :
    Digits (cs.filter (· != '_')) := by
  cases cs with
  | nil => cases h
  | cons c rest =>
      simp only [Form.isNumeral, Bool.and_eq_true, List.all_eq_true] at h
      obtain ⟨hc, hrest⟩ := h
      constructor
      case ne_nil => simp [ne_line_of_isDigit hc]
      case all =>
        apply digits_of_run
        intro d hd
        cases List.mem_cons.1 hd with
        | inl heq => exact .inl (heq ▸ hc)
        | inr hin => simpa [Form.isDigitOrLine] using hrest d hin

theorem isNumeral_of_isSixtieth {cs : List Char} (h : Form.isSixtieth cs = true) :
    Form.isNumeral cs = true := by
  match cs with
  | [a] =>
      simp only [Form.isSixtieth] at h
      simp [Form.isNumeral, h]
  | [a, b] =>
      simp only [Form.isSixtieth, Bool.and_eq_true, decide_eq_true_eq] at h
      have ha : isDigit a = true := by
        simp only [isDigit, Bool.and_eq_true, decide_eq_true_eq]
        exact ⟨h.1.1, Char.le_trans h.1.2 (by decide)⟩
      simp [Form.isNumeral, Form.isDigitOrLine, ha, h.2]

/-- The pieces of a number between its colons are a numeral and places in base sixty. -/
structure Places (pieces : List (List Char)) : Prop where
  first : Form.isNumeral (pieces.headD []) = true
  others : pieces.tail.all Form.isSixtieth = true

theorem Places.isNumeral {pieces : List (List Char)} (h : Places pieces) :
    ∀ piece ∈ pieces, Form.isNumeral piece = true := by
  intro piece hpiece
  cases pieces with
  | nil => cases hpiece
  | cons first others =>
      cases List.mem_cons.1 hpiece with
      | inl heq => exact heq ▸ h.first
      | inr hin => exact isNumeral_of_isSixtieth (List.all_eq_true.1 h.others piece hin)

/-- The pieces of a number without its low lines are digits. -/
theorem Places.digits {cs : List Char} (h : Places (Form.splitColons cs)) :
    ∀ piece ∈ Form.splitColons (cs.filter (· != '_')), Digits piece := by
  intro piece hpiece
  rw [Form.splitColons, splitOn_filter (by decide)] at hpiece
  obtain ⟨form, hform, rfl⟩ := List.mem_map.1 hpiece
  exact digits_of_isNumeral (h.isNumeral form hform)

/-- The first piece of a number begins as the number does. -/
theorem Places.isDigit_head {c : Char} {rest : List Char}
    (h : Places (Form.splitColons (c :: rest))) : isDigit c = true := by
  have hfirst := h.first
  rw [Form.splitColons, List.splitOn_cons_eq_if_modifyHead] at hfirst
  split at hfirst
  · cases hfirst
  · obtain ⟨first, more, hsplit⟩ := List.exists_cons_of_ne_nil (List.splitOn_ne_nil ':' rest)
    rw [hsplit] at hfirst
    simp only [List.modifyHead_cons, List.headD_cons, Form.isNumeral, Bool.and_eq_true] at hfirst
    exact hfirst.1

/--
The sign of a number stands in front of it also when the low lines are taken out and the letters
are changed.
-/
theorem splitNumber_clean {f : Char -> Char} (hminus : f '-' = '-') (hplus : f '+' = '+')
    {cs rest : List Char} {c : Char} (h : Form.unsigned cs = c :: rest) (hc : f c = c)
    (hline : (c != '_') = true) (hsign : c ≠ '-' ∧ c ≠ '+') :
    ∃ negative, splitNumber ((cs.filter (· != '_')).map f) =
      .ok (negative, c :: (rest.filter (· != '_')).map f) := by
  unfold Form.unsigned splitSign at h
  split at h
  · dsimp only at h
    subst h
    exact ⟨true, by simp [splitNumber, splitSign, hline, hminus, hc]⟩
  · dsimp only at h
    subst h
    exact ⟨false, by simp [splitNumber, splitSign, hline, hplus, hc]⟩
  · dsimp only at h
    subst h
    have hsplit (more : List Char) : splitSign (c :: more) = (false, c :: more) :=
      splitSign_of_head fun d hd => Option.some.inj hd ▸ hsign
    exact ⟨false, by simp [splitNumber, hline, hc, hsplit]⟩

theorem splitNumber_filter {cs rest : List Char} {c : Char} (h : Form.unsigned cs = c :: rest)
    (hc : isDigit c = true) :
    ∃ negative, splitNumber (cs.filter (· != '_')) =
      .ok (negative, c :: rest.filter (· != '_')) := by
  simpa using splitNumber_clean (f := id) rfl rfl h rfl (ne_line_of_isDigit hc)
    (ne_sign_of_isDigit hc)

section

variable {text : String} {negative : Bool} {digits : List Char} {c : Char}

theorem whole_zero (h : splitNumber (text.toList.filter (· != '_')) = .ok (negative, ['0'])) :
    whole text = .ok 0 := by
  rw [whole, h]
  cases negative <;> rfl

theorem whole_binary
    (h : splitNumber (text.toList.filter (· != '_')) = .ok (negative, '0' :: 'b' :: digits)) :
    whole text = (wholeOf 2 digits).map (negateIf negative) := by
  rw [whole, h]
  cases hread : wholeOf 2 digits <;> simp only [bind, Except.bind, hread] <;> rfl

theorem whole_hexadecimal
    (h : splitNumber (text.toList.filter (· != '_')) = .ok (negative, '0' :: 'x' :: digits)) :
    whole text = (wholeOf 16 digits).map (negateIf negative) := by
  rw [whole, h]
  cases hread : wholeOf 16 digits <;> simp only [bind, Except.bind, hread] <;> rfl

theorem whole_octal
    (h : splitNumber (text.toList.filter (· != '_')) = .ok (negative, '0' :: c :: digits))
    (hb : c ≠ 'b') (hx : c ≠ 'x') :
    whole text = (wholeOf 8 ('0' :: c :: digits)).map (negateIf negative) := by
  rw [whole, h]
  cases hread : wholeOf 8 ('0' :: c :: digits) <;> simp [bind, Except.bind, hread, hb, hx] <;> rfl

theorem whole_decimal
    (h : splitNumber (text.toList.filter (· != '_')) = .ok (negative, c :: digits))
    (hzero : c ≠ '0') (hcolon : ':' ∉ c :: digits) :
    whole text = (wholeOf 10 (c :: digits)).map (negateIf negative) := by
  rw [List.mem_cons] at hcolon
  rw [whole, h]
  cases hread : wholeOf 10 (c :: digits) <;> simp [bind, Except.bind, hread, hzero, hcolon] <;> rfl

theorem whole_sixtieths
    (h : splitNumber (text.toList.filter (· != '_')) = .ok (negative, c :: digits))
    (hzero : c ≠ '0') (hcolon : ':' ∈ c :: digits) :
    whole text = ((Form.splitColons (c :: digits)).mapM (wholeOf 10)).map
      fun places => negateIf negative (sixtieths places) := by
  rw [List.mem_cons] at hcolon
  rw [whole, h]
  cases hread : (Form.splitColons (c :: digits)).mapM (wholeOf 10) <;>
    simp [bind, Except.bind, hread, hzero, hcolon] <;> rfl

end

/-- Digits behind a mark are read, if there are any. -/
theorem within_marked {base : Nat} (hbase : base = 2 ∨ base = 16) {p : Char -> Bool}
    {digits : List Char} (hp : ∀ c, p c = true -> (digitValue? base c).isSome)
    (h : ∀ c ∈ digits, p c = true ∨ c = '_') :
    Within (PlainFault .int) (wholeOf base (digits.filter (· != '_'))) := by
  by_cases hdigits : digits.filter (· != '_') = []
  · have hnone : wholeOf base [] = .error (.whole base "") := by
      rcases hbase with rfl | rfl <;> rfl
    rw [hdigits, hnone]
    exact within_error (.digitless hbase)
  · have hin : base ∈ bases := by
      rcases hbase with rfl | rfl <;> decide
    exact within_wholeOf hin hdigits fun c hc => hp c (digits_of_run h c hc)

theorem isSome_digitValue?_octal {c : Char} (h : ('0' <= c && c <= '7') = true) :
    (digitValue? 8 c).isSome := by
  have hle : c.toNat ≤ 55 := by
    simp only [Bool.and_eq_true, decide_eq_true_eq] at h
    exact h.2
  exact forall_ascii (P := fun c => ('0' <= c && c <= '7') = true -> (digitValue? 8 c).isSome)
    (by decide +kernel) (by omega) h

theorem isSome_digitValue?_binary {c : Char} (h : (c == '0' || c == '1') = true) :
    (digitValue? 2 c).isSome := by
  simp only [Bool.or_eq_true, beq_iff_eq] at h
  rcases h with rfl | rfl <;> rfl

theorem forall_of_isRun {p : Char -> Bool} {cs : List Char}
    (h : Form.isRun (fun c => p c || c == '_') cs = true) : ∀ c ∈ cs, p c = true ∨ c = '_' := by
  intro c hc
  simp only [Form.isRun, Bool.and_eq_true, List.all_eq_true] at h
  simpa using h.2 c hc

/-- What follows a zero: nothing, a letter and the digits of its base, or octal digits. -/
theorem isWhole_zero {cs rest : List Char} (hbody : Form.unsigned cs = '0' :: rest)
    (h : Form.isWhole cs = true) :
    rest = [] ∨
      (∃ digits, rest = 'b' :: digits ∧ ∀ c ∈ digits, (c == '0' || c == '1') = true ∨ c = '_') ∨
      (∃ digits, rest = 'x' :: digits ∧ ∀ c ∈ digits, Decimal.isHexDigit c = true ∨ c = '_') ∨
      ∀ c ∈ rest, ('0' <= c && c <= '7') = true ∨ c = '_' := by
  rw [Form.isWhole, hbody] at h
  cases rest with
  | nil => exact .inl rfl
  | cons d more =>
      rcases Bool.or_eq_true_iff.1 h with hoctal | hmarked
      · exact .inr (.inr (.inr (forall_of_isRun hoctal)))
      · split at hmarked
        · rename_i digits heq
          cases heq
          exact .inr (.inl ⟨_, rfl, forall_of_isRun hmarked⟩)
        · rename_i digits heq
          cases heq
          exact .inr (.inr (.inl ⟨_, rfl, forall_of_isRun hmarked⟩))
        · cases hmarked

/-- Behind a zero: a number in base eight, or one in the base that a letter marks. -/
theorem within_whole_zero {text : String} {rest : List Char}
    (hbody : Form.unsigned text.toList = '0' :: rest) (h : Form.isWhole text.toList = true) :
    Within (PlainFault .int) (whole text) := by
  obtain ⟨negative, hnumber⟩ := splitNumber_filter hbody (by decide)
  rcases isWhole_zero hbody h with rfl | ⟨digits, rfl, hdigits⟩ | ⟨digits, rfl, hdigits⟩ | hdigits
  · rw [whole_zero hnumber]
    exact within_ok 0
  · rw [List.filter_cons_of_pos (by decide)] at hnumber
    rw [whole_binary hnumber]
    exact (within_marked (.inl rfl) (fun c => isSome_digitValue?_binary) hdigits).map _
  · rw [List.filter_cons_of_pos (by decide)] at hnumber
    rw [whole_hexadecimal hnumber]
    exact (within_marked (.inr rfl) (fun c hc => hc) hdigits).map _
  · have hoctal := digits_of_run hdigits
    cases hrest : rest.filter (· != '_') with
    | nil =>
        rw [hrest] at hnumber
        rw [whole_zero hnumber]
        exact within_ok 0
    | cons d more =>
        rw [hrest] at hnumber hoctal
        have hvalues : ∀ c ∈ '0' :: d :: more, (digitValue? 8 c).isSome :=
          List.forall_mem_cons.2 ⟨rfl, fun c hc => isSome_digitValue?_octal (hoctal c hc)⟩
        have hd := hoctal d List.mem_cons_self
        have hread := within_wholeOf (by decide) (List.cons_ne_nil _ _) hvalues
        rw [whole_octal hnumber (by rintro rfl; cases hd) (by rintro rfl; cases hd)]
        exact hread.map _

theorem places_of_isWhole {cs rest : List Char} {c : Char} (hbody : Form.unsigned cs = c :: rest)
    (hzero : c ≠ '0') (h : Form.isWhole cs = true) : Places (Form.splitColons (c :: rest)) := by
  rw [Form.isWhole, hbody] at h
  split at h
  · cases h
  · rename_i heq
    exact absurd (List.cons.inj heq).1 hzero
  · rename_i heq
    exact absurd (List.cons.inj heq).1 hzero
  · split at h
    · cases h
    · rename_i first others hpieces
      rw [hpieces]
      exact ⟨(Bool.and_eq_true_iff.1 h).1, (Bool.and_eq_true_iff.1 h).2⟩

/-- A decimal number, or one in base sixty, of which every place is a decimal number. -/
theorem within_whole_decimal {text : String} {c : Char} {rest : List Char}
    (hbody : Form.unsigned text.toList = c :: rest) (hzero : c ≠ '0')
    (h : Form.isWhole text.toList = true) : Within (PlainFault .int) (whole text) := by
  have hplaces := places_of_isWhole hbody hzero h
  have hc := hplaces.isDigit_head
  obtain ⟨negative, hnumber⟩ := splitNumber_filter hbody hc
  have hpieces := hplaces.digits
  have hfilter : (c :: rest).filter (· != '_') = c :: rest.filter (· != '_') :=
    List.filter_cons_of_pos (ne_line_of_isDigit hc)
  rw [hfilter] at hpieces
  by_cases hcolon : ':' ∈ c :: rest.filter (· != '_')
  · rw [whole_sixtieths hnumber hzero hcolon]
    exact (within_mapM fun piece hpiece => (hpieces piece hpiece).within).map _
  · rw [whole_decimal hnumber hzero hcolon]
    rw [Form.splitColons, List.splitOn_eq_singleton hcolon] at hpieces
    exact (hpieces _ List.mem_cons_self).within.map _

/-- What has the form of a whole number is one, or it is too long or has no digits. -/
theorem within_whole {text : String} (h : Form.isWhole text.toList = true) :
    Within (PlainFault .int) (whole text) := by
  cases hbody : Form.unsigned text.toList with
  | nil =>
      rw [Form.isWhole, hbody] at h
      cases h
  | cons c rest =>
      by_cases hzero : c = '0'
      · subst hzero
        exact within_whole_zero hbody h
      · exact within_whole_decimal hbody hzero h

end Content

end Clearance.Yaml
