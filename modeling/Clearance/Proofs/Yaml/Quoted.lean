import Clearance.Proofs.Decimal.Digits
import Clearance.Proofs.Yaml.Plain

/-!
# Quoted scalars read back

In quotes of either kind a text is read as itself.  Each piece of the written scalar is read on
its own: a character that stands for itself, an escape, or a gap between two lines.
-/

namespace Clearance.Yaml

open Text (Stops)
open Written (spaces newLine Run runsOf addToRuns folded doubleQuotes escaped escape needsEscape)

@[simp] theorem Quote.add_nil (q : Quote) : q.add [] = q := by
  simp [Quote.add]

theorem Quote.add_add (q : Quote) (text more : List Char) :
    (q.add text).add more = q.add (text ++ more) := by
  simp [Quote.add]

/-- A character is what its number names. -/
theorem Quote.addCode_toNat (q : Quote) (ch : Char) : q.addCode ch.toNat = .ok (q.add [ch]) := by
  have hvalid : ch.toNat.isValidChar := ch.valid
  have hbound : ch.toNat < 0x110000 := by
    obtain h | h := hvalid
    · omega
    · exact h.2
  have hchar : Char.ofNatAux ch.toNat hvalid = ch := by
    have hofNat := Char.ofNat_toNat ch
    rwa [Char.ofNat, dif_pos hvalid] at hofNat
  have hpow : ¬ Nat.pow 2 31 ≤ ch.toNat := by
    have hvalue : Nat.pow 2 31 = 2147483648 := by decide
    omega
  rw [addCode, if_neg hpow, if_neg (Nat.not_le.2 hbound), dif_pos hvalid, hchar]

/-- The characters that are written as they are between quotes of a kind. -/
def isLiteral (double : Bool) (ch : Char) : Bool :=
  isSolid ch && if double then ch != '"' && ch != '\\' else ch != '\''

/-- The next characters of a quoted scalar read as a text. -/
def Reads (double : Bool) (c : Cursor) (text : List Char) (n : Nat) : Prop :=
  ∀ q : Quote, Leads (fun fuel (s : Quote × Cursor) => quotedBody double fuel s.1 s.2)
    (fun s => s.2.rest.length) (q, c) (q.add text, c.advance n)

/-- Empty lines, and the indentation of the line behind them. -/
theorem quotedBreaks_eq {c : Cursor} {t : List Char} {n k : Nat} (hk : 0 < k) (ht : Stops isGap t)
    (hc : c.rest = List.replicate n '\n' ++ (spaces k ++ t)) (breaks : List Char) (fuel : Nat)
    (hfuel : n < fuel) :
    quotedBreaks fuel c breaks = .ok (breaks ++ List.replicate n '\n', c.advance (n + k)) := by
  induction n generalizing c breaks fuel with
  | zero =>
      obtain ⟨fuel, rfl⟩ := Nat.exists_eq_succ_of_ne_zero (Nat.ne_of_gt hfuel)
      have hfresh := fresh_of_stops hk ht
      have hskip := Cursor.skipWhile_append
        (fun ch h => by rw [List.eq_of_mem_replicate h]; rfl) hfresh.stops_blank hc
      rw [Written.length_spaces] at hskip
      have hbreak := Cursor.takeBreak?_of_stops (Cursor.rest_advance_spaces hc ▸ hfresh.stops_break)
      simp [quotedBreaks, hfresh.seesDocumentMark_eq hc, hskip, hbreak]
  | succ n ih =>
      obtain ⟨fuel, rfl⟩ := Nat.exists_eq_succ_of_ne_zero (Nat.ne_of_gt (Nat.zero_lt_of_lt hfuel))
      have hfirst : c.rest = '\n' :: (List.replicate n '\n' ++ (spaces k ++ t)) := hc
      have hmark := Cursor.seesDocumentMark_of_stops (hfirst ▸ Text.stops_cons.2 (by decide))
      have hskip := @Cursor.skipWhile_of_stops c isSpaceOrTab
        (hfirst ▸ Text.stops_cons.2 (by decide))
      rw [quotedBreaks, hmark, if_neg Bool.false_ne_true, hskip]
      dsimp only
      rw [Cursor.takeBreak?_lineFeed hfirst]
      dsimp only
      rw [ih (Cursor.rest_next_cons hfirst) _ _ (Nat.lt_of_succ_lt_succ hfuel), List.append_assoc,
        Nat.succ_add]
      rfl

theorem letterEscape?_of_escapeLetter? {ch mark : Char}
    (h : Written.escapeLetter? ch = some mark) : letterEscape? mark = some ch := by
  obtain ⟨before, behind, hsplit, -⟩ := List.lookup_eq_some_iff.1 h
  have hall : ∀ p ∈ before ++ (ch, mark) :: behind, letterEscape? p.2 = some p.1 := by
    rw [← hsplit]
    decide
  exact hall (ch, mark) (by simp)

/-- The forms of escapes: by a letter, or by number in some width. -/
theorem escape_cases (ch : Char) :
    (∃ mark, letterEscape? mark = some ch ∧ escape ch = ['\\', mark]) ∨
    ∃ mark width, letterEscape? mark = none ∧ escapeWidth? mark = some width ∧ 0 < width ∧
      ch.toNat < 16 ^ width ∧ escape ch = '\\' :: mark :: Written.upperHex width ch.toNat := by
  unfold escape
  cases hletter : Written.escapeLetter? ch with
  | some mark => exact .inl ⟨mark, letterEscape?_of_escapeLetter? hletter, rfl⟩
  | none =>
      refine .inr ?_
      dsimp only
      split
      · exact ⟨'x', 2, rfl, rfl, by decide, by omega, rfl⟩
      · split
        · exact ⟨'u', 4, rfl, rfl, by decide, by omega, rfl⟩
        · have hbound : ch.toNat < 0x110000 := by
            obtain h | h := ch.valid
            · exact Nat.lt_trans h (by decide)
            · exact h.2
          exact ⟨'U', 8, rfl, rfl, by decide, Nat.lt_trans hbound (by decide), rfl⟩

namespace Reads

variable {double : Bool} {c : Cursor} {text more rest t : List Char} {ch : Char} {m n k : Nat}

theorem nil (double : Bool) (c : Cursor) : Reads double c [] 0 := by
  intro q
  rw [Quote.add_nil]
  exact Leads.refl _

theorem append (h : Reads double c text m) (h' : Reads double (c.advance m) more n) :
    Reads double c (text ++ more) (m + n) := by
  intro q
  rw [Cursor.advance_add, ← Quote.add_add]
  exact (h q).trans (h' _)

theorem append_pieces {front back : List Char} (h : Reads double c text front.length)
    (h' : Reads double (c.advance front.length) more back.length) :
    Reads double c (text ++ more) (front ++ back).length := by
  rw [List.length_append]
  exact h.append h'

/-- A step of the loop that reads some characters. -/
theorem of_step (hn : 0 < n) (hc : c.rest ≠ [])
    (h : ∀ fuel q, quotedBody double (fuel + 1) q c = quotedBody double fuel (q.add text) (c.advance n)) :
    Reads double c text n := by
  intro q
  refine Leads.step ?_ (fun fuel => h fuel q)
  have := List.length_pos_iff.2 hc
  simp only [Cursor.length_rest_advance]
  omega

/--
A character of a kind that is taken in runs is read alone: the run behind it is taken in the next
step, or there is none.
-/
theorem of_run {p : Char -> Bool} {P : List Char -> Prop}
    (hrun : ∀ (c : Cursor) (ch : Char) (rest : List Char), c.rest = ch :: rest -> p ch = true ->
      P (rest.dropWhile p) -> ∀ fuel q, quotedBody double (fuel + 1) q c =
        quotedBody double fuel (q.add (ch :: rest.takeWhile p))
          (c.advance ((rest.takeWhile p).length + 1)))
    (hch : p ch = true) (hP : P (rest.dropWhile p)) (hc : c.rest = ch :: rest) :
    Reads double c [ch] 1 := by
  intro q fuel hfuel
  obtain ⟨fuel, rfl⟩ := Nat.exists_eq_succ_of_ne_zero (Nat.ne_of_gt (Nat.zero_lt_of_lt hfuel))
  have hnext : (c.advance 1).rest = rest := Cursor.rest_next_cons hc
  simp only [hc, List.length_cons] at hfuel
  cases rest with
  | nil =>
      refine ⟨fuel, by simpa [hnext] using hfuel, ?_⟩
      exact hrun c ch [] hc hch hP fuel q
  | cons d more =>
      by_cases hd : p d = true
      · refine ⟨fuel + 1, by simp only [hnext]; omega, ?_⟩
        dsimp only
        rw [hrun c ch (d :: more) hc hch hP,
          hrun (c.advance 1) d more hnext hd (by rwa [List.dropWhile_cons, if_pos hd] at hP),
          List.takeWhile_cons, if_pos hd, Quote.add_add, ← Cursor.advance_add, Nat.add_comm 1]
        rfl
      · refine ⟨fuel, by simp only [hnext]; omega, ?_⟩
        dsimp only
        rw [hrun c ch (d :: more) hc hch hP, List.takeWhile_cons, if_neg hd]
        rfl

/-! ## Characters -/

theorem ne_of_isQuotedPlain (h : isQuotedPlain ch = true) :
    ch ≠ '\'' ∧ ch ≠ '"' ∧ ch ≠ '\\' := by
  simp only [isQuotedPlain, Bool.not_eq_true', Bool.or_eq_false_iff, beq_eq_false_iff_ne] at h
  exact ⟨h.1.1.1.1, h.1.1.1.2, h.1.1.2⟩

theorem plain (hch : isQuotedPlain ch = true) (hc : c.rest = ch :: rest) :
    Reads double c [ch] 1 := by
  refine of_run (P := fun _ => True) ?_ hch trivial hc
  intro c ch rest hc hch _ fuel q
  obtain ⟨hsingle, hdouble, hslash⟩ := ne_of_isQuotedPlain hch
  have htake : c.rest.takeWhile isQuotedPlain = ch :: rest.takeWhile isQuotedPlain := by
    rw [hc, List.takeWhile_cons, if_pos hch]
  rw [quotedBody, hc]
  simp only [beq_false_of_ne hsingle, beq_false_of_ne hdouble, beq_false_of_ne hslash, hch,
    Cursor.takeWhile, htake, if_true, Bool.false_eq_true, if_false]
  rfl

theorem ne_of_isSpaceOrTab (h : isSpaceOrTab ch = true) :
    ch ≠ '\'' ∧ ch ≠ '"' ∧ ch ≠ '\\' ∧ isQuotedPlain ch = false := by
  have hplain : isQuotedPlain ch = false := by simp [isQuotedPlain, h]
  have hne (other : Char) (hother : isSpaceOrTab other = false) : ch ≠ other := by
    rintro rfl
    rw [h] at hother
    cases hother
  exact ⟨hne _ (by decide), hne _ (by decide), hne _ (by decide), hplain⟩

/-- Spaces are read as they stand, unless a line or the text ends behind them. -/
theorem space (hmore : rest.dropWhile isSpaceOrTab ≠ [])
    (hstops : Stops isBreak (rest.dropWhile isSpaceOrTab)) (hc : c.rest = ' ' :: rest) :
    Reads double c [' '] 1 := by
  refine of_run (P := fun after => after ≠ [] ∧ Stops isBreak after) ?_ rfl ⟨hmore, hstops⟩ hc
  intro c ch rest hc hch ⟨hmore, hstops⟩ fuel q
  obtain ⟨hsingle, hdouble, hslash, hplain⟩ := ne_of_isSpaceOrTab hch
  have htake : c.rest.takeWhile isSpaceOrTab = ch :: rest.takeWhile isSpaceOrTab := by
    rw [hc, List.takeWhile_cons, if_pos hch]
  have hbehind : (c.advance (ch :: rest.takeWhile isSpaceOrTab).length).rest =
      rest.dropWhile isSpaceOrTab := by
    refine Cursor.rest_advance_append ?_
    rw [hc, List.cons_append, List.takeWhile_append_dropWhile]
  have hend : (c.advance (ch :: rest.takeWhile isSpaceOrTab).length).isAtEnd = false := by
    rw [Cursor.isAtEnd, hbehind, List.isEmpty_eq_false_iff]
    exact hmore
  have hbreak := Cursor.takeBreak?_of_stops (hbehind ▸ hstops)
  have hgap : quotedGap q c = .ok (q.add (ch :: rest.takeWhile isSpaceOrTab),
      c.advance (ch :: rest.takeWhile isSpaceOrTab).length) := by
    unfold quotedGap Cursor.takeWhile
    simp only [htake, hend, hbreak]
    rfl
  rw [quotedBody, hc]
  simp only [beq_false_of_ne hsingle, beq_false_of_ne hdouble, beq_false_of_ne hslash, hplain,
    hgap, Bool.false_eq_true, if_false]
  rfl

theorem literal (hch : isLiteral double ch = true) (hc : c.rest = ch :: rest) :
    Reads double c [ch] 1 := by
  obtain ⟨hsolid, hquote⟩ := Bool.and_eq_true_iff.1 hch
  by_cases hplain : isQuotedPlain ch = true
  · exact plain hplain hc
  · refine of_step Nat.one_pos (by simp [hc]) fun fuel q => ?_
    rw [quotedBody, hc]
    dsimp only
    have hgap := isGap_of_isSolid hsolid
    rw [isGap, Bool.or_eq_false_iff] at hgap
    simp only [isQuotedPlain, hgap.1, hgap.2, Bool.or_false, Bool.not_eq_true', Bool.not_eq_false,
      Bool.or_eq_true, beq_iff_eq] at hplain
    obtain (rfl | rfl) | rfl := hplain
    · cases double with
      | true => rfl
      | false => cases hquote
    · cases double with
      | true => cases hquote
      | false => rfl
    · cases double with
      | true => cases hquote
      | false => rfl

/-- Two quotes between single quotes read as one. -/
theorem pair (hc : c.rest = '\'' :: '\'' :: rest) : Reads false c ['\''] 2 := by
  refine of_step Nat.two_pos (by simp [hc]) fun fuel q => ?_
  rw [quotedBody, hc]
  rfl

/-- A word between single quotes. -/
theorem doubled {w : List Char} (hw : ∀ ch ∈ w, isSolid ch = true)
    (hc : c.rest = doubleQuotes w ++ t) : Reads false c w (doubleQuotes w).length := by
  induction w generalizing c with
  | nil => exact nil false c
  | cons ch more ih =>
      obtain ⟨hch, hmore⟩ := List.forall_mem_cons.1 hw
      rw [doubleQuotes, List.flatMap_cons, ← doubleQuotes, List.append_assoc] at hc
      have hrest := ih hmore (Cursor.rest_advance_append hc)
      have hfirst : Reads false c [ch]
          (if ch == '\'' then ['\'', '\''] else [ch]).length := by
        split
        · rename_i h
          obtain rfl := beq_iff_eq.1 h
          exact pair hc
        · rename_i h
          rw [if_neg h] at hc
          exact literal (by simpa [isLiteral, hch] using h) hc
      rw [doubleQuotes, List.flatMap_cons, ← doubleQuotes, List.length_append]
      exact hfirst.append hrest

/-! ## Line breaks -/

/-- A gap between two lines: a single break reads as a space, of more the first goes. -/
theorem fold (hk : 0 < k) (ht : Stops isGap t)
    (hc : c.rest = List.replicate n '\n' ++ (newLine k ++ t)) :
    Reads double c (if n = 0 then [' '] else List.replicate n '\n') (n + (k + 1)) := by
  have hfirst : c.rest = '\n' :: (List.replicate n '\n' ++ (spaces k ++ t)) := by
    have hsplit : List.replicate n '\n' ++ ['\n'] = '\n' :: List.replicate n '\n' := by
      rw [← List.replicate_succ', List.replicate_succ]
    rw [hc, newLine, List.cons_append, ← List.singleton_append, ← List.append_assoc, hsplit]
    rfl
  have hblanks := @Cursor.takeWhile_of_stops c isSpaceOrTab
    (hfirst ▸ Text.stops_cons.2 (by decide))
  have hend : c.isAtEnd = false := by rw [Cursor.isAtEnd, hfirst]; rfl
  have hnext := Cursor.rest_next_cons hfirst
  have hbreaks := quotedBreaks_eq hk ht hnext [] (c.next.rest.length + 1)
    (by simp only [hnext, List.length_append, List.length_replicate]; omega)
  have htext : foldedBreaks '\n' ([] ++ List.replicate n '\n') =
      if n = 0 then [' '] else List.replicate n '\n' := by
    cases n with
    | zero => rfl
    | succ n => rfl
  have hgap (q : Quote) : quotedGap q c =
      .ok (q.add (if n = 0 then [' '] else List.replicate n '\n'), c.advance (n + (k + 1))) := by
    unfold quotedGap
    rw [hblanks]
    simp only [hend, Cursor.takeBreak?_lineFeed hfirst, hbreaks]
    rw [← htext, ← Nat.add_assoc, Nat.add_comm _ 1, Cursor.advance_add 1]
    rfl
  refine of_step (by omega) (by simp [hfirst]) fun fuel q => ?_
  rw [quotedBody, hfirst]
  dsimp only
  rw [hgap]
  rfl

/-- A line that ends with a backslash goes on in the next one. -/
theorem continued (hk : 0 < k) (ht : Stops isGap t) (hc : c.rest = '\\' :: (newLine k ++ t)) :
    Reads true c [] (k + 2) := by
  have hline : c.next.rest = '\n' :: (List.replicate 0 '\n' ++ (spaces k ++ t)) :=
    Cursor.rest_next_cons hc
  have hbreaks := quotedBreaks_eq hk ht (Cursor.rest_next_cons hline) []
    (c.next.next.rest.length + 1) (Nat.succ_pos _)
  refine of_step (by omega) (by simp [hc]) fun fuel q => ?_
  have hescape : quotedEscape q c.next = .ok (q.add [], c.advance (k + 2)) := by
    unfold quotedEscape
    rw [hline]
    simp only [letterEscape?, escapeWidth?, Cursor.takeBreak?_lineFeed hline, hbreaks]
    rw [Nat.zero_add]
    rfl
  rw [quotedBody, hc]
  dsimp only
  rw [hescape]
  rfl

theorem lineEnd (hk : 0 < k) (ht : Stops isGap t)
    (hc : c.rest = '\\' :: newLine k ++ t) :
    Reads true c [] ('\\' :: newLine k).length := by
  rw [List.length_cons, Written.length_newLine]
  exact continued hk ht hc

/-! ## Escapes -/

/-- An escape that is read behind its backslash. -/
theorem of_escape (hc : c.rest = '\\' :: rest)
    (h : ∀ q, quotedEscape q c.next = .ok (q.add text, c.next.advance n)) :
    Reads true c text (n + 1) := by
  refine of_step (Nat.succ_pos n) (by simp [hc]) fun fuel q => ?_
  rw [quotedBody, hc]
  dsimp only
  rw [h]
  rfl

theorem letter {mark : Char} (h : letterEscape? mark = some ch)
    (hc : c.rest = '\\' :: mark :: rest) : Reads true c [ch] 2 := by
  refine of_escape (n := 1) hc fun q => ?_
  unfold quotedEscape
  rw [Cursor.rest_next_cons hc]
  dsimp only
  rw [h]
  rfl

theorem code {mark : Char} {width : Nat} (hletter : letterEscape? mark = none)
    (hwidth : escapeWidth? mark = some width) (hpos : 0 < width) (h : ch.toNat < 16 ^ width)
    (hc : c.rest = '\\' :: mark :: (Written.upperHex width ch.toNat ++ rest)) :
    Reads true c [ch] (width + 2) := by
  have hlength : (Written.upperHex width ch.toNat).length = width := by
    rw [Written.upperHex, List.length_map, Text.length_hexPadded hpos h]
  have hcode (q : Quote) : q.addCode ch.toNat = .ok (q.add [ch]) := Quote.addCode_toNat q ch
  have hread : Decimal.readNat? 16 (Written.upperHex width ch.toNat) = some ch.toNat := by
    rw [Written.upperHex, Text.readNat?_map_toUpper, Text.readNat?_hexPadded]
  refine of_escape (n := width + 1) hc fun q => ?_
  unfold quotedEscape
  rw [Cursor.rest_next_cons hc]
  dsimp only
  rw [hletter, hwidth]
  dsimp only
  rw [List.take_left' hlength, if_pos hlength, hread]
  dsimp only
  rw [hcode]
  rfl

/-- A character is read from its escape. -/
theorem of_escaped (hc : c.rest = escape ch ++ rest) : Reads true c [ch] (escape ch).length := by
  obtain ⟨mark, hmark, heq⟩ | ⟨mark, width, hmark, hwidth, hpos, hbound, heq⟩ := escape_cases ch
  · rw [heq] at hc ⊢
    exact letter hmark hc
  · rw [heq] at hc ⊢
    have hlength : (Written.upperHex width ch.toNat).length = width := by
      rw [Written.upperHex, List.length_map, Text.length_hexPadded hpos hbound]
    rw [List.length_cons, List.length_cons, hlength]
    exact code hmark hwidth hpos hbound hc

end Reads

/-! ## Single quotes -/

/-- Runs that are empty or begin with a word. -/
def BeginsWithWord (runs : List Run) : Prop :=
  runs = [] ∨ ∃ ch w rest, runs = .word (ch :: w) :: rest

/-- The runs of a text in which no space stands beside a line feed. -/
inductive SpacedRuns : List Run -> Prop where
  | nil : SpacedRuns []
  | word {w : List Char} {rest : List Run} (hw : ∀ ch ∈ w, isSolid ch = true)
      (h : SpacedRuns rest) : SpacedRuns (.word w :: rest)
  | spaces {n : Nat} {rest : List Run} (hnext : BeginsWithWord rest) (h : SpacedRuns rest) :
      SpacedRuns (.spaces n :: rest)
  | breaks {n : Nat} {rest : List Run} (hn : 0 < n) (hnext : BeginsWithWord rest)
      (h : SpacedRuns rest) : SpacedRuns (.breaks n :: rest)

theorem SpacedRuns.cons_solid {c : Char} {runs : List Run} (hc : isSolid c = true)
    (h : SpacedRuns runs) : SpacedRuns (addToRuns c runs) := by
  have hspace := beq_false_of_ne (ne_of_isSolid hc (show isSolid ' ' = false by decide))
  have hbreak := beq_false_of_ne (ne_of_isSolid hc (show isSolid '\n' = false by decide))
  unfold addToRuns
  rw [hspace, hbreak, if_neg Bool.false_ne_true, if_neg Bool.false_ne_true]
  split
  · cases h with
    | word hw h => exact .word (List.forall_mem_cons.2 ⟨hc, hw⟩) h
  · exact .word (by simpa using hc) h

theorem beginsWithWord_runsOf {c : Char} (hc : isSolid c = true) (rest : List Char) :
    BeginsWithWord (runsOf (c :: rest)) := by
  obtain ⟨w, runs, heq⟩ := Written.exists_runsOf_word (ne_of_isSolid hc (by decide))
    (ne_of_isSolid hc (by decide)) rest
  exact .inr ⟨c, w, runs, heq⟩

theorem SpacedRuns.cons_space {runs : List Run} (hnext : BeginsWithWord runs)
    (h : SpacedRuns runs) : SpacedRuns (addToRuns ' ' runs) := by
  have heq : addToRuns ' ' runs = .spaces 1 :: runs := by
    obtain rfl | ⟨ch, w, rest, rfl⟩ := hnext <;> rfl
  rw [heq]
  exact .spaces hnext h

theorem SpacedRuns.cons_break {runs : List Run} (hnext : BeginsWithWord runs)
    (h : SpacedRuns runs) : SpacedRuns (addToRuns '\n' runs) := by
  have heq : addToRuns '\n' runs = .breaks 1 :: runs := by
    obtain rfl | ⟨ch, w, rest, rfl⟩ := hnext <;> rfl
  rw [heq]
  exact .breaks Nat.one_pos hnext h

theorem follows_cons_cons (before after c d : Char) (rest : List Char) :
    Style.follows before after (c :: d :: rest) =
      ((c == before && d == after) || Style.follows before after (d :: rest)) := rfl

theorem spacedRuns_runsOf {cs : List Char}
    (hchars : ∀ c ∈ cs, c = ' ' ∨ c = '\n' ∨ isSolid c = true)
    (hspace : Style.follows ' ' '\n' cs = false) (hbreak : Style.follows '\n' ' ' cs = false) :
    SpacedRuns (runsOf cs) := by
  induction cs with
  | nil => exact .nil
  | cons c rest ih =>
      obtain ⟨hc, hrest⟩ := List.forall_mem_cons.1 hchars
      rw [Written.runsOf_cons]
      cases rest with
      | nil =>
          obtain rfl | rfl | hc := hc
          · exact .cons_space (.inl rfl) .nil
          · exact .cons_break (.inl rfl) .nil
          · exact .cons_solid hc .nil
      | cons d rest =>
          rw [follows_cons_cons, Bool.or_eq_false_iff] at hspace hbreak
          have hruns := ih hrest hspace.2 hbreak.2
          obtain rfl | rfl | hc := hc
          · obtain rfl | rfl | hd := hrest d (by simp)
            · obtain ⟨n, runs, heq⟩ := Written.exists_runsOf_space rest
              rw [heq] at hruns ⊢
              cases hruns with
              | spaces hnext h => exact .spaces hnext h
            · cases hspace.1
            · exact .cons_space (beginsWithWord_runsOf hd rest) hruns
          · obtain rfl | rfl | hd := hrest d (by simp)
            · cases hbreak.1
            · obtain ⟨n, runs, heq⟩ := Written.exists_runsOf_break rest
              rw [heq] at hruns ⊢
              cases hruns with
              | breaks hn hnext h => exact .breaks (Nat.succ_pos _) hnext h
            · exact .cons_break (beginsWithWord_runsOf hd rest) hruns
          · exact .cons_solid hc hruns

theorem Reads.gap {double : Bool} {c : Cursor} {t : List Char} {n : Nat} (hne : t ≠ [])
    (ht : Stops isGap t) (hc : c.rest = spaces n ++ t) : Reads double c (spaces n) n := by
  have hfresh := fresh_of_stops Nat.one_pos ht
  induction n generalizing c with
  | zero => exact .nil double c
  | succ n ih =>
      have hdrop : (spaces n ++ t).dropWhile isSpaceOrTab = t :=
        Text.dropWhile_append_stop (fun ch h => by rw [List.eq_of_mem_replicate h]; rfl)
          hfresh.stops_blank
      have hfirst : Reads double c [' '] 1 :=
        .space (hdrop.symm ▸ hne) (hdrop.symm ▸ hfresh.stops_break) hc
      have hrest := ih (Cursor.rest_next_cons (show c.rest = ' ' :: (spaces n ++ t) from hc))
      have hboth := hfirst.append hrest
      rw [Nat.add_comm 1] at hboth
      exact hboth

/-- What stands behind a gap of a text in single quotes: a word, or the closing quote. -/
theorem stops_folded {runs : List Run} (h : SpacedRuns runs) (hnext : BeginsWithWord runs)
    (indent : Nat) (first : Bool) (column : Nat) (tail : List Char) :
    Stops isGap (folded indent true first column runs ++ '\'' :: tail) := by
  obtain rfl | ⟨ch, w, rest, rfl⟩ := hnext
  · exact Text.stops_cons.2 (by decide)
  · cases h with
    | word hw h =>
        have hch := isGap_of_isSolid (hw ch (by simp))
        have hhead : ∃ more, doubleQuotes (ch :: w) = ch :: more := by
          rw [doubleQuotes, List.flatMap_cons]
          split
          · rename_i heq
            obtain rfl := beq_iff_eq.1 heq
            exact ⟨_, rfl⟩
          · exact ⟨_, rfl⟩
        obtain ⟨more, heq⟩ := hhead
        rw [folded, if_pos rfl, heq]
        exact Text.stops_cons.2 hch

/-- The runs of a text between single quotes are read back, however its lines are folded. -/
theorem Reads.runs {indent : Nat} (hindent : 0 < indent) {runs : List Run} (h : SpacedRuns runs)
    {c : Cursor} {first : Bool} {column : Nat} {tail : List Char}
    (hc : c.rest = folded indent true first column runs ++ '\'' :: tail) :
    Reads false c (Written.runsText runs) (folded indent true first column runs).length := by
  induction h generalizing c first column with
  | nil => exact .nil false c
  | @word w rest hw h ih =>
      rw [folded, if_pos rfl, List.append_assoc] at hc
      rw [folded, if_pos rfl, List.length_append]
      exact (Reads.doubled hw hc).append (ih (Cursor.rest_advance_append hc))
  | @spaces n rest hnext h ih =>
      have hstops := fun column => stops_folded h hnext indent false column tail
      obtain heq | ⟨rfl, -, heq⟩ := folded_spaces indent true first column n rest
      · rw [heq, List.append_assoc] at hc
        rw [heq, List.length_append, Written.length_spaces]
        exact (Reads.gap (by simp) (hstops _) hc).append (ih (Cursor.rest_advance_spaces hc))
      · rw [heq, List.append_assoc] at hc
        rw [heq, List.length_append]
        have hfold := @Reads.fold false c _ 0 indent hindent (hstops _) hc
        rw [Nat.zero_add, ← Written.length_newLine] at hfold
        exact hfold.append (ih (Cursor.rest_advance_append hc))
  | @breaks n rest hn hnext h ih =>
      have hstops := stops_folded h hnext indent false indent tail
      rw [Written.folded, List.append_assoc, List.append_assoc] at hc
      rw [Written.folded]
      have hfold := @Reads.fold false c _ n indent hindent hstops hc
      have hlength : n + (indent + 1) = (List.replicate n '\n' ++ newLine indent).length := by simp
      rw [if_neg (Nat.ne_of_gt hn), hlength] at hfold
      rw [← List.append_assoc] at hc
      rw [List.length_append]
      exact hfold.append (ih (Cursor.rest_advance_append hc))

/-- What is read between two quotes is the scalar: the second one is the closing quote. -/
theorem quotedScalar_of_reads {double : Bool} {c : Cursor} {text tail : List Char} {n : Nat}
    (h : Reads double c.next text n)
    (hend : (c.next.advance n).rest = (if double then '"' else '\'') :: '\n' :: tail) :
    quotedScalar double c = .ok ({ text }, c.advance (n + 2)) := by
  have hfuel : c.next.rest.length < c.rest.length + 1 := by
    have := Cursor.length_rest_advance 1 c
    rw [Cursor.advance, Cursor.advance] at this
    omega
  obtain ⟨fuel, hfuel', heq⟩ := h {} (c.rest.length + 1) hfuel
  obtain ⟨fuel, rfl⟩ := Nat.exists_eq_succ_of_ne_zero (Nat.ne_of_gt (Nat.zero_lt_of_lt hfuel'))
  have hnext : c.advance (n + 2) = (c.next.advance n).next := by
    rw [Nat.add_comm n 2, Nat.add_comm 2 n]
    exact Cursor.advance_add (n + 1) 1 c
  unfold quotedScalar
  refine heq.trans ?_
  dsimp only
  rw [quotedBody, hend, hnext]
  cases double <;> rfl

/-- A scalar in single quotes is read as its text. -/
theorem quotedScalar_single {cs : List Char} (hcs : Style.allowsSingle cs = true) {indent : Nat}
    (hindent : 0 < indent) {c : Cursor} {column : Nat} {tail : List Char}
    (hc : c.rest = '\'' :: (folded indent true true column (runsOf cs) ++ '\'' :: '\n' :: tail)) :
    quotedScalar false c =
      .ok ({ text := cs }, c.advance ((folded indent true true column (runsOf cs)).length + 2)) := by
  simp only [Style.allowsSingle, Bool.and_eq_true, Bool.not_eq_true', List.any_eq_false] at hcs
  have hruns : SpacedRuns (runsOf cs) := spacedRuns_runsOf
    (fun ch h => eq_or_isSolid_of_isSpecial (Bool.eq_false_iff.2 (hcs.1.1 ch h))) hcs.1.2 hcs.2
  have hnext := Cursor.rest_next_cons hc
  have hreads := Reads.runs hindent hruns hnext
  rw [Written.runsText_runsOf] at hreads
  exact quotedScalar_of_reads hreads (Cursor.rest_advance_append hnext)

/-! ## Double quotes -/

/-- The characters between double quotes that need no escape. -/
theorem eq_or_isLiteral_of_needsEscape {ch : Char} (h : needsEscape ch = false) :
    ch = ' ' ∨ isLiteral true ch = true := by
  simp only [needsEscape, Bool.or_eq_false_iff, Bool.not_eq_false', Bool.and_eq_true,
    decide_eq_true_eq, beq_eq_false_iff_ne] at h
  obtain ⟨⟨hquote, hslash⟩, hlow, hhigh⟩ := h
  obtain heq | hlow := Nat.eq_or_lt_of_le hlow
  · exact .inl (Char.toNat_inj.1 (show ch.toNat = ' '.toNat from heq.symm))
  · refine .inr ?_
    simp only [isLiteral, isSolid, Bool.and_eq_true, decide_eq_true_eq, if_true, bne_iff_ne]
    exact ⟨⟨hlow, hhigh⟩, hquote, hslash⟩

theorem exists_dropWhile_held {held t : List Char} (hheld : ∀ ch ∈ held, needsEscape ch = false)
    (hne : t ≠ []) (ht : Stops isGap t) :
    ∃ d rest, (held ++ t).dropWhile isSpaceOrTab = d :: rest ∧ isGap d = false := by
  have hsolid {d : Char} (hd : isGap d = false) (rest : List Char) :
      (d :: rest).dropWhile isSpaceOrTab = d :: rest := by
    rw [isGap, Bool.or_eq_false_iff] at hd
    rw [List.dropWhile_cons, if_neg (Bool.eq_false_iff.1 hd.1)]
  induction held with
  | nil =>
      obtain ⟨d, rest, rfl⟩ := List.exists_cons_of_ne_nil hne
      have hd := Text.stops_cons.1 ht
      exact ⟨d, rest, hsolid hd rest, hd⟩
  | cons ch more ih =>
      obtain ⟨hch, hmore⟩ := List.forall_mem_cons.1 hheld
      obtain rfl | hliteral := eq_or_isLiteral_of_needsEscape hch
      · exact ih hmore
      · have hgap := isGap_of_isSolid (Bool.and_eq_true_iff.1 hliteral).1
        exact ⟨ch, _, hsolid hgap _, hgap⟩

/-- What was written since the last backslash: characters that stand for themselves. -/
theorem Reads.held {c : Cursor} {held t : List Char} (hheld : ∀ ch ∈ held, needsEscape ch = false)
    (hne : t ≠ []) (ht : Stops isGap t) (hc : c.rest = held ++ t) :
    Reads true c held held.length := by
  induction held generalizing c with
  | nil => exact .nil true c
  | cons ch more ih =>
      obtain ⟨hch, hmore⟩ := List.forall_mem_cons.1 hheld
      have hrest := ih hmore (show (c.advance 1).rest = more ++ t from Cursor.rest_next_cons hc)
      have hfirst : Reads true c [ch] 1 := by
        obtain rfl | hliteral := eq_or_isLiteral_of_needsEscape hch
        · obtain ⟨d, rest, hdrop, hd⟩ := exists_dropWhile_held hmore hne ht
          have hstops : Stops isBreak (d :: rest) :=
            Text.stops_cons.2 (Bool.or_eq_false_iff.1 hd).2
          exact .space (hdrop ▸ List.cons_ne_nil _ _) (hdrop ▸ hstops) hc
        · exact .literal hliteral hc
      have hboth := hfirst.append hrest
      rw [Nat.add_comm 1] at hboth
      exact hboth

/-- Wherever some characters stand in front of others between double quotes, they read as a text. -/
def Spells (written text behind : List Char) : Prop :=
  ∀ c : Cursor, c.rest = written ++ behind -> Reads true c text written.length

theorem Spells.append {front first line text behind : List Char}
    (h : Spells front first (line ++ behind)) (h' : Spells line text behind) :
    Spells (front ++ line) (first ++ text) behind := by
  intro c hc
  rw [List.append_assoc] at hc
  exact (h c hc).append_pieces (h' _ (Cursor.rest_advance_append hc))

theorem spells_escape (ch : Char) (behind : List Char) : Spells (escape ch) [ch] behind :=
  fun _ hc => Reads.of_escaped hc

/-- A backslash that is written in front of a space at the start of a line. -/
def Shielded (guard held : List Char) : Prop :=
  guard = [] ∨ guard = ['\\'] ∧ ∃ more, held = ' ' :: more

/-- The characters held back, behind a backslash in front of a space or behind none. -/
theorem spells_shielded {guard held behind : List Char}
    (hheld : ∀ ch ∈ held, needsEscape ch = false) (hguard : Shielded guard held) (hne : behind ≠ [])
    (hbehind : Stops isGap behind) : Spells (guard ++ held) held behind := by
  intro c hc
  obtain rfl | ⟨rfl, more, rfl⟩ := hguard
  · exact .held hheld hne hbehind hc
  · have hspace : Reads true c [' '] 2 :=
      .letter (show letterEscape? ' ' = some ' ' from rfl) hc
    have hmore : Reads true (c.advance 2) more more.length := by
      refine .held (List.forall_mem_cons.1 hheld).2 hne hbehind ?_
      exact Cursor.rest_next_cons (Cursor.rest_next_cons hc)
    exact @Reads.append_pieces true c [' '] more ['\\', ' '] more hspace hmore

section Escaped

variable {indent total place column : Nat} {held rest : List Char} {c : Char}

/--
How a line begins behind its indentation: with no gap, or with a backslash in front of the space
that comes first.  The line is then not long enough yet to be broken at once.
-/
inductive Begins (indent column : Nat) (held cs : List Char) : List Char -> Prop where
  | solid (head : (held ++ cs).head? ≠ some ' ') : Begins indent column held cs []
  | space (head : (held ++ cs).head? = some ' ') (room : held = [] -> column ≤ indent + 1) :
      Begins indent column held cs ['\\']

/-- An escape, and perhaps a new line behind it. -/
theorem escaped_special (hc : needsEscape c = true) :
    (∃ column', escaped indent total place column held (c :: rest) =
      held ++ (escape c ++ escaped indent total (place + 1) column' [] rest)) ∨
    ∃ guard column', Begins indent column' [] rest guard ∧
      escaped indent total place column held (c :: rest) =
        held ++ (escape c ++ '\\' :: (newLine indent ++
          (guard ++ escaped indent total (place + 1) column' [] rest))) := by
  rw [escaped]
  simp only [hc, if_true]
  split
  · refine .inr ?_
    cases hblank : rest.head? == some ' ' with
    | false => exact ⟨[], indent, .solid (by simpa using hblank), by simp⟩
    | true =>
        exact ⟨['\\'], indent + 1, .space (by simpa using hblank) fun _ => Nat.le_refl _, by simp⟩
  · exact .inl ⟨_, List.append_assoc _ _ _⟩

/-- A character that needs no escape is held back, or it is the first one of a new line. -/
theorem escaped_literal (hc : needsEscape c = false) :
    escaped indent total place column held (c :: rest) =
      escaped indent total (place + 1) column (held ++ [c]) rest ∨
    ∃ guard column', (held = [] -> Written.width < column) ∧
      Begins indent column' [c] rest guard ∧
      escaped indent total place column held (c :: rest) =
        held ++ '\\' :: (newLine indent ++
          (guard ++ escaped indent total (place + 1) column' [c] rest)) := by
  rw [escaped]
  simp only [hc, Bool.false_eq_true, if_false]
  split
  · rename_i hfold
    refine .inr ?_
    have hwidth : held = [] -> Written.width < column := by
      rintro rfl
      simpa using (Bool.and_eq_true_iff.1 hfold).2
    by_cases hblank : c = ' '
    · subst hblank
      exact ⟨['\\'], indent + 1, hwidth, .space rfl nofun, by simp⟩
    · exact ⟨[], indent, hwidth, .solid (by simpa using hblank), by simp [hblank]⟩
  · exact .inl rfl

/-- What is held back is written first. -/
theorem exists_escaped_eq_append (cs : List Char) :
    ∃ t, escaped indent total place column held cs = held ++ t := by
  induction cs generalizing place column held with
  | nil => exact ⟨[], by rw [escaped, List.append_nil]⟩
  | cons c rest ih =>
      cases hc : needsEscape c with
      | true =>
          obtain ⟨_, heq⟩ | ⟨_, _, -, heq⟩ :=
            @escaped_special indent total place column held rest c hc
          · exact ⟨_, heq⟩
          · exact ⟨_, heq⟩
      | false =>
          obtain heq | ⟨_, _, -, -, heq⟩ :=
            @escaped_literal indent total place column held rest c hc
          · obtain ⟨t, ht⟩ := @ih (place + 1) column (held ++ [c])
            exact ⟨c :: t, by rw [heq, ht, List.append_assoc, List.singleton_append]⟩
          · exact ⟨_, heq⟩

theorem exists_escape_eq_cons (c : Char) : ∃ more, escape c = '\\' :: more := by
  obtain ⟨mark, -, heq⟩ | ⟨mark, width, -, -, -, -, heq⟩ := escape_cases c <;> exact ⟨_, heq⟩

theorem spells_shielded_escape {guard : List Char} (hheld : ∀ ch ∈ held, needsEscape ch = false)
    (hguard : Shielded guard held) (c : Char) (line behind : List Char) :
    Spells (guard ++ held) held (escape c ++ line ++ behind) := by
  obtain ⟨more, hescape⟩ := exists_escape_eq_cons c
  rw [hescape]
  exact spells_shielded hheld hguard (List.cons_ne_nil _ _) (Text.stops_cons.2 (by decide))

/-- A line that does not begin with a space begins with no gap at all. -/
theorem stops_escaped (hheld : ∀ ch ∈ held, needsEscape ch = false) {cs : List Char}
    (hhead : (held ++ cs).head? ≠ some ' ') (tail : List Char) :
    Stops isGap (escaped indent total place column held cs ++ '"' :: tail) := by
  have hliteral {ch : Char} (hch : needsEscape ch = false) (hne : ch ≠ ' ') : isGap ch = false :=
    isGap_of_isSolid (Bool.and_eq_true_iff.1
      ((eq_or_isLiteral_of_needsEscape hch).resolve_left hne)).1
  cases held with
  | cons ch more =>
      obtain ⟨t, heq⟩ := @exists_escaped_eq_append indent total place column (ch :: more) cs
      rw [heq]
      exact Text.stops_cons.2 (hliteral (hheld ch (by simp)) (by simpa using hhead))
  | nil =>
      cases cs with
      | nil => exact Text.stops_cons.2 (by decide)
      | cons c rest =>
          cases hc : needsEscape c with
          | true =>
              obtain ⟨more, hescape⟩ := exists_escape_eq_cons c
              obtain ⟨_, heq⟩ | ⟨_, _, -, heq⟩ :=
                @escaped_special indent total place column [] rest c hc
              · rw [heq, hescape]
                exact Text.stops_cons.2 (by decide)
              · rw [heq, hescape]
                exact Text.stops_cons.2 (by decide)
          | false =>
              obtain heq | ⟨_, _, -, -, heq⟩ :=
                @escaped_literal indent total place column [] rest c hc
              · obtain ⟨t, ht⟩ :=
                  @exists_escaped_eq_append indent total (place + 1) column [c] rest
                rw [heq, List.nil_append, ht]
                exact Text.stops_cons.2 (hliteral hc (by simpa using hhead))
              · rw [heq]
                exact Text.stops_cons.2 (by decide)

theorem Begins.stops {guard cs : List Char} (h : Begins indent column held cs guard)
    (hheld : ∀ ch ∈ held, needsEscape ch = false) (total place : Nat) (tail : List Char) :
    Stops isGap (guard ++ escaped indent total place column held cs ++ '"' :: tail) := by
  cases h with
  | solid head => exact stops_escaped hheld head tail
  | space head room => exact Text.stops_cons.2 (by decide)

/-- A new line is spelled as its text, behind the backslash at the end of the line before. -/
theorem Begins.spells {guard text line tail : List Char} (hindent : 0 < indent)
    (hstops : Stops isGap (guard ++ line ++ tail)) (h : Spells (guard ++ line) text tail) :
    Spells ('\\' :: (newLine indent ++ (guard ++ line))) text tail := by
  have hbreak : Spells ('\\' :: newLine indent) [] (guard ++ line ++ tail) :=
    fun _ hc => Reads.lineEnd hindent hstops hc
  exact hbreak.append h

/-- Behind a backslash in front of a space the line is not broken at once. -/
theorem eq_nil_of_guarded {guard cs : List Char} (hroom : indent < Written.width)
    (hguard : guard = [] ∨ Begins indent column [] cs guard)
    (hhead : cs.head? = some ' ' -> Written.width < column) : guard = [] := by
  obtain hnil | hbegins := hguard
  · exact hnil
  · cases hbegins with
    | solid head => rfl
    | space head room =>
        have hlong := hhead head
        have hshort := room rfl
        omega

theorem shielded_of_guarded {guard cs : List Char}
    (hguard : guard = [] ∨ Begins indent column held cs guard) (hfirst : held = [] -> guard = []) :
    Shielded guard held := by
  obtain hnil | hbegins := hguard
  · exact .inl hnil
  · cases hbegins with
    | solid head => exact .inl rfl
    | space head room =>
        cases held with
        | nil => exact .inl (hfirst rfl)
        | cons ch more =>
            obtain rfl := Option.some.inj head
            exact .inr ⟨rfl, more, rfl⟩

theorem guarded_concat {guard : List Char}
    (h : guard = [] ∨ Begins indent column held (c :: rest) guard) :
    guard = [] ∨ Begins indent column (held ++ [c]) rest guard := by
  refine h.imp_right fun hbegins => ?_
  cases hbegins with
  | solid head => exact .solid (by simpa using head)
  | space head room => exact .space (by simpa using head) (by simp)

/--
The characters between double quotes are read back.  `guard` is a backslash in front of a space at
the start of a line, which must not be followed by a new line: the indentation leaves room.
-/
theorem spells_escaped (hindent : 0 < indent) (hroom : indent < Written.width) (cs : List Char)
    {guard tail : List Char} (hheld : ∀ ch ∈ held, needsEscape ch = false)
    (hguard : guard = [] ∨ Begins indent column held cs guard) :
    Spells (guard ++ escaped indent total place column held cs) (held ++ cs) ('"' :: tail) := by
  induction cs generalizing place column held guard with
  | nil =>
      have hshield : Shielded guard held := by
        refine shielded_of_guarded hguard ?_
        rintro rfl
        exact eq_nil_of_guarded hroom hguard nofun
      rw [Written.escaped, List.append_nil]
      exact spells_shielded hheld hshield (List.cons_ne_nil _ _) (Text.stops_cons.2 (by decide))
  | cons c rest ih =>
      cases hc : needsEscape c with
      | true =>
          have hshield : Shielded guard held := by
            refine shielded_of_guarded hguard ?_
            rintro rfl
            refine eq_nil_of_guarded hroom hguard fun hhead => ?_
            obtain rfl := Option.some.inj hhead
            cases hc
          have hfront := spells_shielded_escape hheld hshield c
          have hchar := spells_escape c
          obtain ⟨column', heq⟩ | ⟨guard', column', hbegins, heq⟩ :=
            @escaped_special indent total place column held rest c hc
          · have hrest := @ih (place + 1) column' [] [] (by simp) (.inl rfl)
            have hall := (hfront _ _).append ((hchar _).append hrest)
            rw [heq, ← List.append_assoc]
            simpa only [List.append_assoc, List.nil_append, List.singleton_append] using hall
          · have hrest := @ih (place + 1) column' [] guard' (by simp) (.inr hbegins)
            have hline := Begins.spells hindent (hbegins.stops (by simp) _ _ _) hrest
            have hall := (hfront _ _).append ((hchar _).append hline)
            rw [heq, ← List.append_assoc]
            simpa only [List.append_assoc, List.nil_append, List.singleton_append] using hall
      | false =>
          obtain heq | ⟨guard', column', hwidth, hbegins, heq⟩ :=
            @escaped_literal indent total place column held rest c hc
          · have hheldc : ∀ ch ∈ held ++ [c], needsEscape ch = false := by
              simpa [or_imp, forall_and, hc] using hheld
            have hall := @ih (place + 1) column (held ++ [c]) guard hheldc (guarded_concat hguard)
            rw [heq]
            simpa only [List.append_assoc, List.singleton_append] using hall
          · have hshield : Shielded guard held := by
              refine shielded_of_guarded hguard ?_
              rintro rfl
              exact eq_nil_of_guarded hroom hguard fun _ => hwidth rfl
            have hfirst : ∀ ch ∈ [c], needsEscape ch = false := by simpa using hc
            have hrest := @ih (place + 1) column' [c] guard' hfirst (.inr hbegins)
            have hline := Begins.spells hindent (hbegins.stops hfirst _ _ _) hrest
            have hall := (spells_shielded hheld hshield (List.cons_ne_nil _ _)
              (Text.stops_cons.2 (by decide))).append hline
            rw [heq, ← List.append_assoc]
            exact hall

end Escaped

/-- A scalar in double quotes is read as its text. -/
theorem quotedScalar_double {cs : List Char} {indent total column : Nat} (hindent : 0 < indent)
    (hroom : indent < Written.width) {c : Cursor} {tail : List Char}
    (hc : c.rest = '"' :: (escaped indent total 0 column [] cs ++ '"' :: '\n' :: tail)) :
    quotedScalar true c =
      .ok ({ text := cs }, c.advance ((escaped indent total 0 column [] cs).length + 2)) := by
  have hnext := Cursor.rest_next_cons hc
  have hreads := @spells_escaped indent total 0 column [] hindent hroom cs [] ('\n' :: tail)
    (by simp) (.inl rfl) c.next hnext
  exact quotedScalar_of_reads hreads (Cursor.rest_advance_append hnext)

end Clearance.Yaml
