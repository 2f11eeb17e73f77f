import Clearance.Json.Reader
import Clearance.Json.Writer
import Clearance.Proofs.Decimal.Digits

/-!
# Texts read back

A text in double quotes is read as itself, whether it is written in ASCII only or not: every
character is written in a form that the reader turns into that character.
-/

namespace Clearance.Json

namespace Cursor

@[simp] theorem rest_skip (c : Cursor) (n : Nat) : (c.skip n).rest = c.rest.drop n := rfl

@[simp] theorem skip_skip (c : Cursor) (m n : Nat) : (c.skip m).skip n = c.skip (m + n) := by
  simp [skip, Nat.add_assoc]

@[simp] theorem skip_zero (c : Cursor) : c.skip 0 = c := by
  simp [skip]

theorem rest_skip_append {c : Cursor} {front rest : List Char} (h : c.rest = front ++ rest) :
    (c.skip front.length).rest = rest := by
  simp [h]

theorem rest_skip_one {c : Cursor} {ch : Char} {rest : List Char} (h : c.rest = ch :: rest) :
    (c.skip 1).rest = rest := by
  simp [h]

end Cursor

/-! ## Escapes -/

theorem hexFour?_append {code : Nat} (h : code < 0x10000) (rest : List Char) :
    hexFour? (Text.hexPadded 4 code ++ rest) = some code := by
  have hlength := Text.length_hexPadded (show 0 < 4 by decide) (show code < 16 ^ 4 from h)
  have htake : (Text.hexPadded 4 code ++ rest).take 4 = Text.hexPadded 4 code :=
    List.take_left' hlength
  simp only [hexFour?, htake, hlength, if_true]
  exact Text.readNat?_hexPadded 4 code

theorem shortUnescape?_of_shortEscape? {ch letter : Char} (h : shortEscape? ch = some letter) :
    shortUnescape? letter = some ch := by
  unfold shortEscape? at h
  repeat'
    first
    | (split at h
       · rename_i heq
         obtain rfl := heq
         obtain rfl := Option.some.inj h
         rfl)
    | cases h

/-- The escape of a letter. -/
theorem readEscape_letter {c : Cursor} {ch letter : Char} {rest : List Char}
    (hc : c.rest = letter :: rest) (h : shortEscape? ch = some letter) :
    readEscape c = .ok (ch, 1) := by
  have hread := shortUnescape?_of_shortEscape? h
  have hletter : letter ≠ 'u' := by
    rintro rfl
    cases hread
  unfold readEscape
  rw [hc]
  split
  · rename_i heq
    exact absurd (List.cons.inj heq).1 hletter
  · rename_i heq
    obtain ⟨rfl, -⟩ := List.cons.inj heq
    rw [hread]
  · rename_i heq
    cases heq

theorem length_hexFour {code : Nat} (h : code < 0x10000) : (Text.hexPadded 4 code).length = 4 :=
  Text.length_hexPadded (by decide) h

theorem not_length_hexFour_append_le {code : Nat} (h : code < 0x10000) {rest : List Char}
    (hrest : rest ≠ []) : ¬ (Text.hexPadded 4 code ++ rest).length ≤ 4 := by
  have := List.length_pos_iff.2 hrest
  rw [List.length_append, length_hexFour h]
  omega

/-- The escape of a code that is no half of a character. -/
theorem readEscape_code {c : Cursor} {code : Nat} {rest : List Char} (hcode : code < 0x10000)
    (hhigh : isHighSurrogate code = false) (hlow : isLowSurrogate code = false) (hrest : rest ≠ [])
    (hc : c.rest = 'u' :: Text.hexPadded 4 code ++ rest) :
    readEscape c = .ok (Char.ofNat code, 5) := by
  unfold readEscape
  rw [hc]
  simp only [List.cons_append, hexFour?_append hcode, not_length_hexFour_append_le hcode hrest,
    if_false, hhigh, hlow, Bool.or_self, Bool.false_eq_true]

theorem lt_of_isHighSurrogate {code : Nat} (h : isHighSurrogate code = true) : code < 0x10000 := by
  simp only [isHighSurrogate, Bool.and_eq_true, decide_eq_true_eq] at h
  omega

theorem lt_of_isLowSurrogate {code : Nat} (h : isLowSurrogate code = true) : code < 0x10000 := by
  simp only [isLowSurrogate, Bool.and_eq_true, decide_eq_true_eq] at h
  omega

/-- The escapes of the two halves of a character. -/
theorem readEscape_pair {c : Cursor} {high low : Nat} {rest : List Char}
    (hhigh : isHighSurrogate high = true) (hlow : isLowSurrogate low = true) (hrest : rest ≠ [])
    (hc : c.rest = 'u' :: Text.hexPadded 4 high ++ (unicodeEscape low ++ rest)) :
    readEscape c =
      .ok (Char.ofNat (0x10000 + (high - 0xd800) * 0x400 + (low - 0xdc00)), 11) := by
  have hhighcode := lt_of_isHighSurrogate hhigh
  have hlowcode := lt_of_isLowSurrogate hlow
  have hmore := not_length_hexFour_append_le hlowcode hrest
  have hmore' : ¬ (Text.hexPadded 4 low ++ rest).length < 5 := by omega
  have hlong := @not_length_hexFour_append_le high hhighcode (unicodeEscape low ++ rest)
    (by simp [unicodeEscape])
  unfold readEscape
  rw [hc]
  simp only [List.cons_append, hexFour?_append hhighcode, hlong, if_false, hhigh,
    List.drop_left' (length_hexFour hhighcode)]
  simp only [unicodeEscape, List.cons_append, hmore', hexFour?_append hlowcode, hlow, if_true,
    if_false]

/-! ## Characters and texts -/

theorem toNat_valid (ch : Char) : ch.toNat < 0xd800 ∨ 0xdfff < ch.toNat ∧ ch.toNat < 0x110000 :=
  ch.valid

theorem isHighSurrogate_toNat (ch : Char) : isHighSurrogate ch.toNat = false := by
  have := toNat_valid ch
  simp only [isHighSurrogate, Bool.and_eq_false_iff, decide_eq_false_iff_not]
  omega

theorem isLowSurrogate_toNat (ch : Char) : isLowSurrogate ch.toNat = false := by
  have := toNat_valid ch
  simp only [isLowSurrogate, Bool.and_eq_false_iff, decide_eq_false_iff_not]
  omega

theorem surrogates_spec {ch : Char} (h : 0x10000 ≤ ch.toNat) :
    isHighSurrogate (surrogates ch.toNat).1 = true ∧
      isLowSurrogate (surrogates ch.toNat).2 = true ∧
      Char.ofNat (0x10000 + ((surrogates ch.toNat).1 - 0xd800) * 0x400 +
        ((surrogates ch.toNat).2 - 0xdc00)) = ch := by
  have hvalid := toNat_valid ch
  have hhigh : (surrogates ch.toNat).1 = 0xd800 + (ch.toNat - 0x10000) / 0x400 := rfl
  have hlow : (surrogates ch.toNat).2 = 0xdc00 + (ch.toNat - 0x10000) % 0x400 := rfl
  rw [hhigh, hlow]
  refine ⟨?_, ?_, ?_⟩
  · simp only [isHighSurrogate, Bool.and_eq_true, decide_eq_true_eq]
    omega
  · simp only [isLowSurrogate, Bool.and_eq_true, decide_eq_true_eq]
    omega
  · rw [show 0x10000 + (0xd800 + (ch.toNat - 0x10000) / 0x400 - 0xd800) * 0x400 +
        (0xdc00 + (ch.toNat - 0x10000) % 0x400 - 0xdc00) = ch.toNat by omega]
    exact Char.ofNat_toNat ch

/-- How a character is written: with a letter, as it is, by its code or by its two halves. -/
theorem writtenChar_cases (asciiOnly : Bool) (ch : Char) :
    (∃ letter, shortEscape? ch = some letter ∧ writtenChar asciiOnly ch = ['\\', letter]) ∨
    (shortEscape? ch = none ∧ 0x20 ≤ ch.toNat ∧ writtenChar asciiOnly ch = [ch]) ∨
    (ch.toNat < 0x10000 ∧ writtenChar asciiOnly ch = unicodeEscape ch.toNat) ∨
    (0x10000 ≤ ch.toNat ∧ writtenChar asciiOnly ch =
      unicodeEscape (surrogates ch.toNat).1 ++ unicodeEscape (surrogates ch.toNat).2) := by
  unfold writtenChar
  cases hshort : shortEscape? ch with
  | some letter => exact .inl ⟨letter, rfl, rfl⟩
  | none =>
      dsimp only
      split
      · exact .inr (.inr (.inl ⟨by omega, rfl⟩))
      · split
        · exact .inr (.inl ⟨rfl, by omega, rfl⟩)
        · split
          · exact .inr (.inr (.inl ⟨by assumption, rfl⟩))
          · exact .inr (.inr (.inr ⟨by omega, rfl⟩))

theorem writtenChar_ne_nil (asciiOnly : Bool) (ch : Char) : writtenChar asciiOnly ch ≠ [] := by
  obtain ⟨letter, -, h⟩ | ⟨-, -, h⟩ | ⟨-, h⟩ | ⟨-, h⟩ := writtenChar_cases asciiOnly ch <;> rw [h]
  · exact List.cons_ne_nil _ _
  · exact List.cons_ne_nil _ _
  · exact List.cons_ne_nil _ _
  · exact List.cons_ne_nil _ _

theorem readChars_of_escape {ch : Char} {used : Nat} {c : Cursor} {rest : List Char}
    (hrest : rest ≠ []) (hc : c.rest = '\\' :: rest) (h : readEscape (c.skip 1) = .ok (ch, used))
    (start fuel : Nat) (acc : List Char) :
    readChars start (fuel + 1) acc c = readChars start fuel (ch :: acc) (c.skip (used + 1)) := by
  obtain ⟨d, more, rfl⟩ := List.exists_cons_of_ne_nil hrest
  rw [readChars, hc]
  simp only [h]

theorem readChars_pair {high low : Nat} {c : Cursor} {rest : List Char}
    (hhigh : isHighSurrogate high = true) (hlow : isLowSurrogate low = true) (hrest : rest ≠ [])
    (hc : c.rest = unicodeEscape high ++ (unicodeEscape low ++ rest)) (start fuel : Nat)
    (acc : List Char) :
    readChars start (fuel + 1) acc c =
      readChars start fuel
        (Char.ofNat (0x10000 + (high - 0xd800) * 0x400 + (low - 0xdc00)) :: acc)
        (c.skip (unicodeEscape high ++ unicodeEscape low).length) := by
  have hescape := readEscape_pair hhigh hlow hrest (Cursor.rest_skip_one hc)
  have hhighcode := length_hexFour (lt_of_isHighSurrogate hhigh)
  have hlowcode := length_hexFour (lt_of_isLowSurrogate hlow)
  rw [readChars_of_escape (by simp) hc hescape start fuel acc]
  simp [unicodeEscape, hhighcode, hlowcode]

/-- A written character is read in one step. -/
theorem readChars_writtenChar (asciiOnly : Bool) (ch : Char) {c : Cursor} {rest : List Char}
    (hrest : rest ≠ []) (hc : c.rest = writtenChar asciiOnly ch ++ rest) (start fuel : Nat)
    (acc : List Char) :
    readChars start (fuel + 1) acc c =
      readChars start fuel (ch :: acc) (c.skip (writtenChar asciiOnly ch).length) := by
  obtain ⟨letter, hletter, h⟩ | ⟨hplain, hcode, h⟩ | ⟨hcode, h⟩ | ⟨hcode, h⟩ :=
    writtenChar_cases asciiOnly ch
  · rw [h] at hc ⊢
    have hescape := readEscape_letter (Cursor.rest_skip_one hc) hletter
    exact readChars_of_escape (by simp) hc hescape start fuel acc
  · rw [h] at hc ⊢
    have hquote : ch ≠ '"' := by
      rintro rfl
      cases hplain
    have hslash : ch ≠ '\\' := by
      rintro rfl
      cases hplain
    rw [readChars, hc, List.singleton_append]
    split
    · rename_i heq
      cases heq
    · rename_i heq
      exact absurd (List.cons.inj heq).1 hquote
    · rename_i heq
      exact absurd (List.cons.inj heq).1 hslash
    · rename_i heq
      exact absurd (List.cons.inj heq).1 hslash
    · rename_i heq
      obtain ⟨rfl, -⟩ := List.cons.inj heq
      rw [if_neg (Nat.not_lt.2 hcode)]
      rfl
  · rw [h] at hc ⊢
    have hescape := readEscape_code hcode (isHighSurrogate_toNat ch) (isLowSurrogate_toNat ch) hrest
      (Cursor.rest_skip_one hc)
    rw [Char.ofNat_toNat] at hescape
    rw [readChars_of_escape (by simp) hc hescape start fuel acc]
    simp [unicodeEscape, length_hexFour hcode]
  · rw [h] at hc ⊢
    obtain ⟨hhigh, hlow, hjoin⟩ := surrogates_spec hcode
    rw [List.append_assoc] at hc
    rw [readChars_pair hhigh hlow hrest hc, hjoin]

theorem readChars_written (asciiOnly : Bool) (cs : List Char) {c : Cursor} {rest : List Char}
    (hc : c.rest = cs.flatMap (writtenChar asciiOnly) ++ '"' :: rest) (start fuel : Nat)
    (acc : List Char) (hfuel : cs.length < fuel) :
    readChars start fuel acc c =
      .ok (String.ofList (acc.reverse ++ cs),
        c.skip ((cs.flatMap (writtenChar asciiOnly)).length + 1)) := by
  induction cs generalizing c fuel acc with
  | nil =>
      obtain ⟨fuel, rfl⟩ := Nat.exists_eq_succ_of_ne_zero (Nat.ne_of_gt hfuel)
      have hquote : c.rest = '"' :: rest := hc
      simp [readChars, hquote]
  | cons ch more ih =>
      obtain ⟨fuel, rfl⟩ := Nat.exists_eq_succ_of_ne_zero (Nat.ne_of_gt (Nat.zero_lt_of_lt hfuel))
      rw [List.flatMap_cons, List.append_assoc] at hc
      rw [readChars_writtenChar asciiOnly ch (by simp) hc,
        ih (Cursor.rest_skip_append hc) _ _ (by simpa using hfuel)]
      simp [Nat.add_assoc]

/-- A written text is read behind its opening quote. -/
theorem readString_writtenString (asciiOnly : Bool) (s : String) {c : Cursor} {rest : List Char}
    (hc : c.rest = writtenString asciiOnly s ++ rest) :
    readString (c.skip 1) = .ok (s, c.skip (writtenString asciiOnly s).length) := by
  have hbody : (c.skip 1).rest = s.toList.flatMap (writtenChar asciiOnly) ++ '"' :: rest := by
    rw [Cursor.rest_skip, hc]
    simp [writtenString]
  have hlength : s.toList.length ≤ (s.toList.flatMap (writtenChar asciiOnly)).length := by
    generalize s.toList = cs
    induction cs with
    | nil => exact Nat.le_refl _
    | cons ch more ih =>
        have hpos := List.length_pos_iff.2 (writtenChar_ne_nil asciiOnly ch)
        rw [List.flatMap_cons, List.length_append, List.length_cons]
        omega
  have hfuel : s.toList.length < (c.skip 1).rest.length + 1 := by
    rw [hbody, List.length_append]
    omega
  unfold readString
  rw [readChars_written asciiOnly s.toList hbody _ _ _ hfuel]
  simp [writtenString, Nat.add_comm]

end Clearance.Json
