import Clearance.Proofs.Yaml.TreeTokens

/-!
# Characters of a written tree

A tree is written in printable characters, whatever characters its texts hold: those that cannot
be printed are written as escapes.
-/

namespace Clearance.Yaml

open Written (spaces newLine Run)

/-- A text of characters that may stand in a document. -/
def Printed (cs : List Char) : Prop :=
  ∀ ch ∈ cs, isPrintable ch = true

namespace Printed

variable {cs more : List Char} {ch : Char}

@[simp] theorem nil : Printed [] := by
  intro ch h
  cases h

@[simp] theorem cons_iff : Printed (ch :: cs) ↔ isPrintable ch = true ∧ Printed cs :=
  List.forall_mem_cons

@[simp] theorem append_iff : Printed (cs ++ more) ↔ Printed cs ∧ Printed more :=
  List.forall_mem_append

@[simp] theorem of_spaces (n : Nat) : Printed (spaces n) := by
  intro ch h
  rw [List.eq_of_mem_replicate h]
  rfl

@[simp] theorem of_newLine (n : Nat) : Printed (newLine n) :=
  cons_iff.2 ⟨rfl, of_spaces n⟩

end Printed

theorem isPrintable_of_isSolid {ch : Char} (h : isSolid ch = true) : isPrintable ch = true := by
  simp only [isSolid, Bool.and_eq_true, decide_eq_true_eq] at h
  have hlow : 0x20 ≤ ch.toNat := by omega
  simp [isPrintable, hlow, h.2]

theorem isPrintable_of_isSpecial {ch : Char} (h : Style.isSpecial ch = false) :
    isPrintable ch = true := by
  obtain rfl | rfl | h := eq_or_isSolid_of_isSpecial h
  · rfl
  · rfl
  · exact isPrintable_of_isSolid h

/-! ## Scalars -/

/-- Folding and doubling of quotes add only spaces, line feeds and quotes. -/
theorem printed_folded {runs : List Run} (h : Printed (Written.runsText runs)) (indent : Nat)
    (quoted first : Bool) (column : Nat) :
    Printed (Written.folded indent quoted first column runs) := by
  induction runs generalizing first column with
  | nil => exact .nil
  | cons run rest ih =>
      rw [Written.runsText, List.flatMap_cons, Printed.append_iff] at h
      cases run with
      | word w =>
          have hw : Printed w := h.1
          have hquoted : Printed (Written.doubleQuotes w) := by
            intro ch hch
            obtain ⟨d, hd, hch⟩ := List.mem_flatMap.1 hch
            split at hch
            · rename_i heq
              simp only [List.mem_cons, List.not_mem_nil, or_false, or_self] at hch
              rw [hch]
              rfl
            · rw [List.mem_singleton.1 hch]
              exact hw d hd
          cases quoted <;> simp [Written.folded, hw, hquoted, ih h.2]
      | spaces n =>
          obtain heq | ⟨-, -, heq⟩ := folded_spaces indent quoted first column n rest <;>
            simp [heq, ih h.2]
      | breaks n =>
          have hbreaks : Printed (List.replicate n '\n') := h.1
          simp [Written.folded, hbreaks, ih h.2]

theorem isSome_digitValue?_of_readDigits {base acc n : Nat} {cs : List Char}
    (h : Decimal.readDigits base acc cs = some n) :
    ∀ ch ∈ cs, (Decimal.digitValue? base ch).isSome = true := by
  induction cs generalizing acc with
  | nil => simp
  | cons c rest ih =>
      rw [Decimal.readDigits] at h
      split at h
      · rename_i d hd
        exact List.forall_mem_cons.2 ⟨by rw [hd, Option.isSome_some], ih h⟩
      · cases h

theorem isSolid_of_digitValue? {base : Nat} {ch : Char}
    (h : (Decimal.digitValue? base ch).isSome = true) : isSolid ch = true := by
  simp only [isSolid, Bool.and_eq_true, decide_eq_true_eq]
  simp only [Decimal.digitValue?, Bool.and_eq_true, decide_eq_true_eq] at h
  split at h
  · omega
  · split at h
    · omega
    · split at h
      · omega
      · cases h

theorem printed_upperHex (width n : Nat) : Printed (Written.upperHex width n) := by
  have hread : Decimal.readNat? 16 (Written.upperHex width n) = some n := by
    rw [Written.upperHex, Text.readNat?_map_toUpper, Text.readNat?_hexPadded]
  rw [Decimal.readNat?] at hread
  split at hread
  · cases hread
  · intro ch hch
    have hvalue := isSome_digitValue?_of_readDigits hread ch hch
    exact isPrintable_of_isSolid (isSolid_of_digitValue? hvalue)

theorem isPrintable_of_letterEscape? {mark ch : Char} (h : letterEscape? mark = some ch) :
    isPrintable mark = true := by
  unfold letterEscape? at h
  split at h <;> first | rfl | cases h

theorem isPrintable_of_escapeWidth? {mark : Char} {width : Nat}
    (h : escapeWidth? mark = some width) : isPrintable mark = true := by
  unfold escapeWidth? at h
  split at h <;> first | rfl | cases h

theorem printed_escape (ch : Char) : Printed (Written.escape ch) := by
  obtain ⟨mark, hmark, heq⟩ | ⟨mark, width, -, hwidth, -, -, heq⟩ := escape_cases ch
  · rw [heq]
    exact Printed.cons_iff.2 ⟨rfl, Printed.cons_iff.2 ⟨isPrintable_of_letterEscape? hmark, .nil⟩⟩
  · rw [heq]
    refine Printed.cons_iff.2 ⟨rfl, Printed.cons_iff.2 ⟨isPrintable_of_escapeWidth? hwidth, ?_⟩⟩
    exact printed_upperHex width ch.toNat

theorem isPrintable_of_needsEscape {ch : Char} (h : Written.needsEscape ch = false) :
    isPrintable ch = true := by
  obtain rfl | h := eq_or_isLiteral_of_needsEscape h
  · rfl
  · exact isPrintable_of_isSolid (Bool.and_eq_true_iff.1 h).1

theorem printed_escaped {held : List Char} (hheld : Printed held)
    (indent total place column : Nat) (cs : List Char) :
    Printed (Written.escaped indent total place column held cs) := by
  induction cs generalizing place column held with
  | nil =>
      rw [Written.escaped]
      exact hheld
  | cons c rest ih =>
      have hguard {column : Nat} {held cs guard : List Char}
          (h : Begins indent column held cs guard) : Printed guard := by
        cases h with
        | solid => exact .nil
        | space => exact Printed.cons_iff.2 ⟨rfl, .nil⟩
      have hslash : isPrintable '\\' = true := rfl
      cases hc : Written.needsEscape c with
      | true =>
          obtain ⟨column', heq⟩ | ⟨guard, column', hcase, heq⟩ :=
            @escaped_special indent total place column held rest c hc
          · simp [heq, hheld, printed_escape, ih]
          · simp [heq, hheld, printed_escape, ih, hslash, hguard hcase]
      | false =>
          have hch : Printed [c] := Printed.cons_iff.2 ⟨isPrintable_of_needsEscape hc, .nil⟩
          obtain heq | ⟨guard, column', -, hcase, heq⟩ :=
            @escaped_literal indent total place column held rest c hc
          · rw [heq]
            exact ih (Printed.append_iff.2 ⟨hheld, hch⟩) _ _
          · simp [heq, hheld, ih hch, hslash, hguard hcase]

/-- A text is written in printable characters. -/
theorem printed_scalar (indent column : Nat) (s : String) :
    Printed (Written.scalar indent column s) := by
  have hruns (h : ∀ ch ∈ s.toList, Style.isSpecial ch = false) :
      Printed (Written.runsText (Written.runsOf s.toList)) := by
    rw [Written.runsText_runsOf]
    exact fun ch hch => isPrintable_of_isSpecial (h ch hch)
  rw [Written.scalar]
  cases hstyle : Style.ofText s with
  | plain =>
      have hplain := (Style.of_eq_plain hstyle).1
      simp only [Style.allowsPlain, Bool.and_eq_true, Bool.not_eq_true', List.any_eq_false,
        Bool.not_eq_true] at hplain
      exact printed_folded (hruns hplain.1.1.1.1.2) _ _ _ _
  | single =>
      have hsingle := Style.of_eq_single hstyle
      simp only [Style.allowsSingle, Bool.and_eq_true, Bool.not_eq_true', List.any_eq_false,
        Bool.not_eq_true] at hsingle
      have hquote : isPrintable '\'' = true := rfl
      simp [hquote, printed_folded (hruns hsingle.1.1)]
  | double =>
      have hquote : isPrintable '"' = true := rfl
      simp [hquote, printed_escaped]

/-! ## Trees -/

namespace Tree

theorem printed_flag (b : Bool) : Printed (if b then "true" else "false").toList := by
  cases b <;> exact List.all_eq_true.1 (by decide)

theorem printed_name {name : String} (h : FieldName name) : Printed name.toList :=
  fun ch hch => isPrintable_of_isSolid (isSolid_of_isFieldChar (h.chars ch hch))

theorem printed_fieldsText {fields : List (String × Tree)} (hnames : ∀ f ∈ fields, FieldName f.1)
    (hfields : ∀ f ∈ fields, ∀ indent column, Printed (fieldText indent column f.2))
    (indent : Nat) : Printed (fieldsText indent fields) := by
  induction fields with
  | nil =>
      rw [fieldsText]
      exact .nil
  | cons f rest ih =>
      obtain ⟨name, t⟩ := f
      obtain ⟨hname, hnames'⟩ := List.forall_mem_cons.1 hnames
      obtain ⟨ht, hfields'⟩ := List.forall_mem_cons.1 hfields
      have hcolon : isPrintable ':' = true := rfl
      have hrest := ih hnames' hfields'
      cases rest with
      | nil =>
          rw [fieldsText]
          simp [printed_name hname, hcolon, ht]
      | cons f rest =>
          rw [fieldsText_cons]
          simp [printed_name hname, hcolon, ht, hrest]

theorem printed_itemsText {items : List Tree}
    (hitems : ∀ t ∈ items, ∀ indent, Printed (itemText indent t)) (indent : Nat) :
    Printed (itemsText indent items) := by
  induction items with
  | nil =>
      rw [itemsText]
      exact .nil
  | cons t rest ih =>
      obtain ⟨ht, hitems'⟩ := List.forall_mem_cons.1 hitems
      have hdash : isPrintable '-' = true := rfl
      rw [itemsText]
      simp [hdash, ht, ih hitems']

/-- Whatever its texts hold, a regular tree is written in printable characters. -/
theorem regular_printed {n : Nat} {t : Tree} (h : Regular n t) :
    (∀ indent column, Printed (fieldText indent column t)) ∧
      (t.isList = false -> ∀ indent, Printed (itemText indent t)) := by
  have hspace : isPrintable ' ' = true := rfl
  induction h with
  | flag n b =>
      refine ⟨fun indent column => ?_, fun _ indent => ?_⟩
      · rw [fieldText]
        exact Printed.cons_iff.2 ⟨hspace, printed_flag b⟩
      · rw [itemText]
        exact Printed.cons_iff.2 ⟨hspace, printed_flag b⟩
  | text n s =>
      refine ⟨fun indent column => ?_, fun _ indent => ?_⟩
      · rw [fieldText]
        exact Printed.cons_iff.2 ⟨hspace, printed_scalar _ _ s⟩
      · rw [itemText]
        exact Printed.cons_iff.2 ⟨hspace, printed_scalar _ _ s⟩
  | @list n items hflat _ ih =>
      refine ⟨fun indent column => ?_, fun h => by cases h⟩
      cases items with
      | nil =>
          rw [fieldText]
          exact List.all_eq_true.1 (by decide)
      | cons t rest =>
          rw [fieldText_list]
          exact printed_itemsText (fun t' h => (ih t' h).2 (hflat t' h)) indent
  | @record n fields hne _ hnames _ ih =>
      have hfields (indent : Nat) : Printed (fieldsText indent fields) :=
        printed_fieldsText hnames (fun f h => (ih f h).1) indent
      refine ⟨fun indent column => ?_, fun _ indent => ?_⟩
      · rw [fieldText_record hne]
        exact Printed.append_iff.2 ⟨.of_newLine _, hfields _⟩
      · rw [itemText_record hne]
        exact Printed.cons_iff.2 ⟨hspace, hfields _⟩

end Tree

end Clearance.Yaml
