import Clearance.Proofs.Yaml.Cursor
import Clearance.Yaml.Token.Scalar

/-!
# Plain scalars read back

A text that may stand without quotes consists of words and gaps between them.  However its lines
are folded, the words and gaps are read as they were.
-/

namespace Clearance.Yaml

open Text (Stops)
open Written (spaces newLine Run runsOf addToRuns folded)

/-! ## Kinds of characters -/

/-- The characters of words: those of ASCII that are seen. -/
def isSolid (ch : Char) : Bool :=
  decide (0x21 ≤ ch.toNat) && decide (ch.toNat ≤ 0x7e)

theorem ne_of_isSolid {ch other : Char} (h : isSolid ch = true) (hother : isSolid other = false) :
    ch ≠ other := by
  rintro rfl
  rw [h] at hother
  cases hother

/-- The characters that can be written as they are. -/
theorem eq_or_isSolid_of_isSpecial {ch : Char} (h : Style.isSpecial ch = false) :
    ch = ' ' ∨ ch = '\n' ∨ isSolid ch = true := by
  simp only [Style.isSpecial, Bool.not_eq_false', Bool.or_eq_true, beq_iff_eq, Bool.and_eq_true,
    decide_eq_true_eq] at h
  obtain rfl | ⟨hlow, hhigh⟩ := h
  · exact .inr (.inl rfl)
  · obtain heq | hlow := Nat.eq_or_lt_of_le hlow
    · have hspace : ch.toNat = ' '.toNat := heq.symm
      exact .inl (Char.toNat_inj.1 hspace)
    · refine .inr (.inr ?_)
      simp only [isSolid, Bool.and_eq_true, decide_eq_true_eq]
      exact ⟨hlow, hhigh⟩

/-- A character that takes no place in a line or ends a word. -/
def isGap (ch : Char) : Bool :=
  isSpaceOrTab ch || isBreak ch

theorem isGap_of_isSolid {ch : Char} (h : isSolid ch = true) : isGap ch = false := by
  simp only [isGap, isSpaceOrTab, isBreak, Bool.or_eq_false_iff, beq_eq_false_iff_ne]
  exact ⟨⟨ne_of_isSolid h (by decide), ne_of_isSolid h (by decide)⟩,
    ⟨⟨⟨ne_of_isSolid h (by decide), ne_of_isSolid h (by decide)⟩, ne_of_isSolid h (by decide)⟩,
      ne_of_isSolid h (by decide)⟩, ne_of_isSolid h (by decide)⟩

theorem isInline_of_isSolid {ch : Char} (h : isSolid ch = true) : isInline ch = true := by
  have hgap := isGap_of_isSolid h
  simp only [isGap, Bool.or_eq_false_iff] at hgap
  simp only [isInline, isByteOrderMark, hgap.2, Bool.not_false, Bool.true_and, Bool.not_eq_true',
    beq_eq_false_iff_ne]
  exact ne_of_isSolid h (by decide)

/-! ## Lines -/

variable {c : Cursor} {t tail : List Char} {k : Nat}

/-- A text that goes on behind the indentation of a line: no blank, no break and no mark. -/
structure Fresh (k : Nat) (t : List Char) : Prop where
  stops : Stops isGap t
  unmarked : k = 0 -> ∀ c : Cursor, c.rest = t -> c.seesDocumentMark = false

namespace Fresh

theorem stops_space (h : Fresh k t) : Stops (· == ' ') t := by
  intro ch hch
  have := h.stops ch hch
  simp only [isGap, isSpaceOrTab, Bool.or_eq_false_iff] at this
  exact this.1.1

theorem stops_blank (h : Fresh k t) : Stops isSpaceOrTab t := by
  intro ch hch
  exact (Bool.or_eq_false_iff.1 (h.stops ch hch)).1

theorem stops_break (h : Fresh k t) : Stops isBreak t := by
  intro ch hch
  exact (Bool.or_eq_false_iff.1 (h.stops ch hch)).2

/-- No mark stands where the line begins. -/
theorem seesDocumentMark_eq (h : Fresh k t) (hc : c.rest = spaces k ++ t) :
    c.seesDocumentMark = false := by
  cases k with
  | zero => exact h.unmarked rfl c hc
  | succ k =>
      refine Cursor.seesDocumentMark_of_stops ?_
      rw [hc, spaces, List.replicate_succ]
      exact Text.stops_cons.2 rfl

end Fresh

theorem fresh_of_stops (hk : 0 < k) (h : Stops isGap t) : Fresh k t where
  stops := h
  unmarked hzero := absurd hzero (Nat.ne_of_gt hk)

/-- The characters of field names. -/
def isFieldChar (ch : Char) : Bool :=
  ch.isAlpha || ch == '_'

/-- What a line of a tree holds behind its indentation: a name, an item, or nothing at the end. -/
inductive LineStart : List Char -> Prop where
  | nil : LineStart []
  | name {ch : Char} {rest : List Char} (h : isFieldChar ch = true) : LineStart (ch :: rest)
  | item {rest : List Char} : LineStart ('-' :: ' ' :: rest)

theorem ne_of_isFieldChar {ch other : Char} (h : isFieldChar ch = true)
    (hother : isFieldChar other = false) : ch ≠ other := by
  rintro rfl
  rw [h] at hother
  cases hother

theorem isSolid_of_isFieldChar {ch : Char} (h : isFieldChar ch = true) : isSolid ch = true := by
  delta isFieldChar Char.isAlpha Char.isUpper Char.isLower at h
  simp only [Bool.or_eq_true, Bool.and_eq_true, decide_eq_true_eq, beq_iff_eq] at h
  simp only [isSolid, Bool.and_eq_true, decide_eq_true_eq]
  obtain (⟨hlow, hhigh⟩ | ⟨hlow, hhigh⟩) | rfl := h
  · have hlow : 65 ≤ ch.toNat := UInt32.le_iff_toNat_le.1 hlow
    have hhigh : ch.toNat ≤ 90 := UInt32.le_iff_toNat_le.1 hhigh
    omega
  · have hlow : 97 ≤ ch.toNat := UInt32.le_iff_toNat_le.1 hlow
    have hhigh : ch.toNat ≤ 122 := UInt32.le_iff_toNat_le.1 hhigh
    omega
  · decide

namespace LineStart

theorem fresh (h : LineStart t) (k : Nat) : Fresh k t := by
  cases h with
  | nil => exact ⟨Text.stops_nil _, fun _ c hc => Cursor.seesDocumentMark_of_stops (hc ▸ Text.stops_nil _)⟩
  | name h =>
      refine ⟨Text.stops_cons.2 (isGap_of_isSolid (isSolid_of_isFieldChar h)), fun _ c hc => ?_⟩
      refine Cursor.seesDocumentMark_of_stops (hc ▸ Text.stops_cons.2 ?_)
      rw [beq_false_of_ne (ne_of_isFieldChar h (by decide)),
        beq_false_of_ne (ne_of_isFieldChar h (by decide))]
      rfl
  | item =>
      refine ⟨Text.stops_cons.2 (by decide), fun _ c hc => ?_⟩
      simp [Cursor.seesDocumentMark, Cursor.seesMark, hc]

theorem stops_comment (h : LineStart t) : Stops (· == '#') t := by
  cases h with
  | nil => exact Text.stops_nil _
  | name h => exact Text.stops_cons.2 (beq_false_of_ne (ne_of_isFieldChar h (by decide)))
  | item => exact Text.stops_cons.2 (by decide)

theorem stops_byteOrderMark (h : LineStart t) : Stops isByteOrderMark t := by
  cases h with
  | nil => exact Text.stops_nil _
  | name h => exact Text.stops_cons.2 (beq_false_of_ne (ne_of_isFieldChar h (by decide)))
  | item => exact Text.stops_cons.2 (by decide)

end LineStart

/-! ## Runs -/

namespace Written

def Run.text : Run -> List Char
  | .word cs => cs
  | .spaces n => Written.spaces n
  | .breaks n => List.replicate n '\n'

def runsText (runs : List Run) : List Char :=
  runs.flatMap Run.text

theorem runsText_addToRuns (c : Char) (runs : List Run) :
    runsText (addToRuns c runs) = c :: runsText runs := by
  unfold addToRuns
  split
  · rename_i h
    obtain rfl := beq_iff_eq.1 h
    split <;> simp [runsText, Run.text, spaces, List.replicate_succ]
  · split
    · rename_i h
      obtain rfl := beq_iff_eq.1 h
      split <;> simp [runsText, Run.text, List.replicate_succ]
    · split <;> simp [runsText, Run.text]

@[simp] theorem runsText_runsOf (cs : List Char) : runsText (runsOf cs) = cs := by
  induction cs with
  | nil => rfl
  | cons c rest ih => rw [runsOf, List.foldr_cons, runsText_addToRuns, ← runsOf, ih]

theorem runsOf_cons (c : Char) (rest : List Char) :
    runsOf (c :: rest) = addToRuns c (runsOf rest) := rfl

theorem exists_runsOf_space (rest : List Char) :
    ∃ n runs, runsOf (' ' :: rest) = .spaces (n + 1) :: runs := by
  rw [runsOf_cons]
  unfold addToRuns
  rw [if_pos (beq_self_eq_true _)]
  split
  · exact ⟨_, _, rfl⟩
  · exact ⟨0, _, rfl⟩

theorem exists_runsOf_break (rest : List Char) :
    ∃ n runs, runsOf ('\n' :: rest) = .breaks (n + 1) :: runs := by
  rw [runsOf_cons]
  unfold addToRuns
  rw [if_neg (by decide), if_pos (beq_self_eq_true _)]
  split
  · exact ⟨_, _, rfl⟩
  · exact ⟨0, _, rfl⟩

theorem exists_runsOf_word {c : Char} (hspace : c ≠ ' ') (hbreak : c ≠ '\n') (rest : List Char) :
    ∃ w runs, runsOf (c :: rest) = .word (c :: w) :: runs := by
  rw [runsOf_cons]
  unfold addToRuns
  rw [if_neg (by simpa using hspace), if_neg (by simpa using hbreak)]
  split
  · exact ⟨_, _, rfl⟩
  · exact ⟨[], _, rfl⟩

end Written

/-! ## Plain runs -/

/-- A word that is read as a whole where it stands; behind a blank it is no comment. -/
structure PlainWord (behindBlank : Bool) (w : List Char) : Prop where
  ne_nil : w ≠ []
  solid : ∀ ch ∈ w, isSolid ch = true
  head_ne : behindBlank = true -> w.head? ≠ some '#'
  last_ne : w.getLast? ≠ some ':'

/-- Runs that can be written plain, behind a blank or behind a word: they end with a word. -/
inductive PlainRuns : Bool -> List Run -> Prop where
  | spaces {n : Nat} {rest : List Run} (hn : 0 < n) (h : PlainRuns true rest) :
      PlainRuns false (.spaces n :: rest)
  | last {behindBlank : Bool} {w : List Char} (hw : PlainWord behindBlank w) :
      PlainRuns behindBlank [.word w]
  | word {behindBlank : Bool} {w : List Char} {n : Nat} {rest : List Run}
      (hw : PlainWord behindBlank w) (hn : 0 < n) (h : PlainRuns true rest) :
      PlainRuns behindBlank (.word w :: .spaces n :: rest)

theorem PlainWord.cons {behindBlank behindBlank' : Bool} {c d : Char} {w : List Char}
    (hc : isSolid c = true) (hhead : behindBlank = true -> c ≠ '#')
    (h : PlainWord behindBlank' (d :: w)) : PlainWord behindBlank (c :: d :: w) where
  ne_nil := List.cons_ne_nil _ _
  solid := List.forall_mem_cons.2 ⟨hc, h.solid⟩
  head_ne hbehind := by simpa using hhead hbehind
  last_ne := by simpa using h.last_ne

theorem PlainWord.single {behindBlank : Bool} {c : Char} (hc : isSolid c = true)
    (hhead : behindBlank = true -> c ≠ '#') (hlast : c ≠ ':') : PlainWord behindBlank [c] where
  ne_nil := List.cons_ne_nil _ _
  solid := by simpa using hc
  head_ne hbehind := by simpa using hhead hbehind
  last_ne := by simpa using hlast

/-- What it means that no mark stands at the front of a text. -/
theorem hasInnerMark_cons {before c : Char} {rest : List Char}
    (h : Style.hasInnerMark before (c :: rest) = false) :
    (Style.isBlankNext rest = true -> c ≠ ':') ∧ (before = ' ' -> c ≠ '#') ∧
      Style.hasInnerMark c rest = false := by
  rw [Style.hasInnerMark, Bool.or_eq_false_iff, Bool.or_eq_false_iff] at h
  obtain ⟨⟨hcolon, hcomment⟩, hrest⟩ := h
  refine ⟨?_, ?_, hrest⟩
  · rintro hblank rfl
    simp [hblank] at hcolon
  · rintro rfl rfl
    cases hcomment

/-- A text without marks inside has plain runs, if it does not end with a space. -/
theorem plainRuns_runsOf {before c : Char} {rest : List Char}
    (hchars : ∀ d ∈ c :: rest, d = ' ' ∨ isSolid d = true)
    (hlast : (c :: rest).getLast? ≠ some ' ')
    (hmark : Style.hasInnerMark before (c :: rest) = false) :
    PlainRuns (before == ' ' && c != ' ') (runsOf (c :: rest)) := by
  induction rest generalizing before c with
  | nil =>
      obtain ⟨hcolon, hcomment, -⟩ := hasInnerMark_cons hmark
      have hspace : c ≠ ' ' := by simpa using hlast
      have hc : isSolid c = true := (hchars c (by simp)).resolve_left hspace
      have hbreak := ne_of_isSolid hc (show isSolid '\n' = false by decide)
      have hruns : runsOf [c] = [.word [c]] := by simp [runsOf, addToRuns, hspace, hbreak]
      rw [hruns]
      exact .last (.single hc (by simpa [hspace] using hcomment) (hcolon rfl))
  | cons d rest ih =>
      obtain ⟨hcolon, hcomment, hinner⟩ := hasInnerMark_cons hmark
      obtain ⟨hc, hchars'⟩ := List.forall_mem_cons.1 hchars
      have hruns := ih hchars' (by simpa using hlast) hinner
      rw [Written.runsOf_cons]
      by_cases hspace : c = ' '
      · subst hspace
        rw [bne_self_eq_false, Bool.and_false]
        by_cases hd : d = ' '
        · subst hd
          obtain ⟨n, runs, heq⟩ := Written.exists_runsOf_space rest
          rw [heq] at hruns ⊢
          cases hruns with
          | spaces _ h => exact .spaces (Nat.succ_pos _) h
        · have hsolid := (hchars' d (by simp)).resolve_left hd
          obtain ⟨w, runs, heq⟩ :=
            Written.exists_runsOf_word hd (ne_of_isSolid hsolid (by decide)) rest
          rw [heq, bne_iff_ne.2 hd] at hruns
          rw [heq]
          exact .spaces Nat.one_pos hruns
      · have hsolid := hc.resolve_left hspace
        have hbreak := ne_of_isSolid hsolid (show isSolid '\n' = false by decide)
        have hhead : (before == ' ' && c != ' ') = true -> c ≠ '#' := by
          simpa [hspace] using hcomment
        rw [beq_false_of_ne hspace, Bool.false_and] at hruns
        by_cases hd : d = ' '
        · subst hd
          obtain ⟨n, runs, heq⟩ := Written.exists_runsOf_space rest
          rw [heq] at hruns ⊢
          cases hruns with
          | spaces _ h =>
              simpa [addToRuns, hspace, hbreak] using
                PlainRuns.word (.single hsolid hhead (hcolon rfl)) (Nat.succ_pos n) h
        · have hdsolid := (hchars' d (by simp)).resolve_left hd
          obtain ⟨w, runs, heq⟩ :=
            Written.exists_runsOf_word hd (ne_of_isSolid hdsolid (by decide)) rest
          rw [heq] at hruns ⊢
          cases hruns with
          | last hw =>
              simpa [addToRuns, hspace, hbreak] using PlainRuns.last (hw.cons hsolid hhead)
          | word hw hn h =>
              simpa [addToRuns, hspace, hbreak] using PlainRuns.word (hw.cons hsolid hhead) hn h

/-! ## Reading -/

theorem plainWord_append {w rest : List Char} (hw : ∀ ch ∈ w, isSolid ch = true)
    (hlast : w.getLast? ≠ some ':') (hrest : plainWord false rest = []) :
    plainWord false (w ++ rest) = w := by
  induction w with
  | nil => exact hrest
  | cons ch more ih =>
      obtain ⟨hch, hmore⟩ := List.forall_mem_cons.1 hw
      have hgap := isGap_of_isSolid hch
      rw [isGap] at hgap
      have hcolon : (ch == ':' && (more ++ rest).head?.all (fun d =>
          isSpaceOrTab d || isBreak d || (false && isFlowMark d))) = false := by
        cases more with
        | nil =>
            have hne : ch ≠ ':' := by simpa using hlast
            rw [beq_false_of_ne hne, Bool.false_and]
        | cons d more =>
            have hd := isGap_of_isSolid (List.forall_mem_cons.1 hmore).1
            rw [isGap] at hd
            simp [hd]
      have hlast' : more.getLast? ≠ some ':' := by
        cases more with
        | nil => simp
        | cons d more => simpa using hlast
      rw [List.cons_append, plainWord, hgap, hcolon, ih hmore hlast']
      rfl

theorem plainWord_of_gap (h : ∀ ch, t.head? = some ch -> isGap ch = true) :
    plainWord false t = [] := by
  cases t with
  | nil => rfl
  | cons ch rest =>
      have hgap := h ch rfl
      rw [isGap] at hgap
      rw [plainWord, hgap]
      rfl

theorem plainGap_spaces {n : Nat} (ht : Stops isGap t) (hc : c.rest = spaces n ++ t) :
    plainGap c = { text := spaces n, after := c.advance n, broken := false } := by
  have hfresh : Fresh 1 t := fresh_of_stops Nat.one_pos ht
  have hbreak : (c.advance n).takeBreak? = none :=
    Cursor.takeBreak?_of_stops (Cursor.rest_advance_spaces hc ▸ hfresh.stops_break)
  have htake := Cursor.takeWhile_append (fun ch => by simp [spaces]) hfresh.stops_space hc
  rw [Written.length_spaces] at htake
  unfold plainGap
  rw [htake]
  dsimp only
  rw [hbreak]

theorem plainGap_newLine (ht : Fresh k t) (hc : c.rest = newLine k ++ t) :
    plainGap c = { text := [' '], after := c.advance (k + 1), broken := true } := by
  have hnext : c.next.rest = spaces k ++ t := Cursor.rest_next_cons hc
  have hstop : Stops (· == ' ') c.rest := hc ▸ Text.stops_cons.2 rfl
  have hmark := ht.seesDocumentMark_eq hnext
  have hskip := Cursor.skipWhile_append (fun ch => by simp [spaces]) ht.stops_space hnext
  rw [Written.length_spaces] at hskip
  have hbreak : (c.next.advance k).takeBreak? = none :=
    Cursor.takeBreak?_of_stops (Cursor.rest_advance_spaces hnext ▸ ht.stops_break)
  have hbreaks (fuel : Nat) : plainBreaks (fuel + 1) c.next [] = some ([], c.next.advance k) := by
    rw [plainBreaks, hskip, hbreak]
  unfold plainGap
  rw [Cursor.takeWhile_of_stops hstop]
  dsimp only
  rw [Cursor.takeBreak?_lineFeed hc]
  dsimp only
  rw [hmark, hbreaks]
  rfl

/-- One word of a plain scalar and the gap behind it. -/
theorem plainWords_succ {w : List Char} {depth : Int} (hw : PlainWord true w)
    (ht : plainWord false t = []) (hc : c.rest = w ++ t) {g : Gap}
    (hgap : plainGap (c.advance w.length) = g) (fuel : Nat) (text gap : List Char)
    (broken : Bool) :
    plainWords false depth (fuel + 1) c text gap broken =
      if g.text.isEmpty || g.after.seesChar '#' || decide ((g.after.column : Int) < depth) then
        ((text ++ gap ++ w, g.broken), g.after)
      else plainWords false depth fuel g.after (text ++ gap ++ w) g.text g.broken := by
  have hword : plainWord false c.rest = w := by
    rw [hc]
    exact plainWord_append hw.solid hw.last_ne ht
  obtain ⟨ch, more, rfl⟩ := List.exists_cons_of_ne_nil hw.ne_nil
  have hcomment : c.seesChar '#' = false := by
    refine Cursor.seesChar_eq_false (hc ▸ Text.stops_cons.2 ?_)
    exact beq_false_of_ne fun h => hw.head_ne rfl (congrArg some h)
  subst hgap
  rw [plainWords, hcomment, hword]
  rfl

/-- A run of spaces is written as it stands, or as a new line if it is a single one. -/
theorem folded_spaces (indent : Nat) (quoted first : Bool) (column n : Nat) (rest : List Run) :
    folded indent quoted first column (.spaces n :: rest) =
        spaces n ++ folded indent quoted false (column + n) rest ∨
      n = 1 ∧ rest ≠ [] ∧ folded indent quoted first column (.spaces n :: rest) =
        newLine indent ++ folded indent quoted false indent rest := by
  rw [folded]
  split
  · rename_i h
    simp only [Bool.and_eq_true, decide_eq_true_eq, Bool.not_eq_true', List.isEmpty_eq_false_iff]
      at h
    exact .inr ⟨h.1.1.1, h.2, rfl⟩
  · exact .inl rfl

theorem exists_folded_head {runs : List Run} (h : PlainRuns true runs) (indent : Nat)
    (first : Bool) (column : Nat) :
    ∃ ch more, folded indent false first column runs = ch :: more ∧ isSolid ch = true ∧ ch ≠ '#' := by
  have hword {w : List Char} (hw : PlainWord true w) (rest : List Run) :
      ∃ ch more, folded indent false first column (.word w :: rest) = ch :: more ∧
        isSolid ch = true ∧ ch ≠ '#' := by
    obtain ⟨ch, more, rfl⟩ := List.exists_cons_of_ne_nil hw.ne_nil
    exact ⟨ch, _, rfl, hw.solid ch (by simp), fun h => hw.head_ne rfl (congrArg some h)⟩
  cases h with
  | last hw => exact hword hw _
  | word hw => exact hword hw _

/-- A gap reads as the spaces it stands for, and what follows stands deep enough. -/
theorem plainGap_folded {indent n : Nat} {depth : Int} {rest : List Run} {more : List Char}
    (hindent : 0 < indent) (hdepth : depth ≤ indent) (hn : 0 < n) (hrest : PlainRuns true rest)
    {first : Bool} {column : Nat} (hcolumn : depth ≤ c.column)
    (hc : c.rest = folded indent false first column (.spaces n :: rest) ++ more) :
    ∃ m column' broken,
      plainGap c = { text := spaces n, after := c.advance m, broken } ∧
      (c.advance m).rest = folded indent false false column' rest ++ more ∧
      depth ≤ (c.advance m).column ∧ 0 < m ∧
      (folded indent false first column (.spaces n :: rest)).length =
        m + (folded indent false false column' rest).length := by
  have hstops (column' : Nat) : Stops isGap (folded indent false false column' rest ++ more) := by
    obtain ⟨ch, more, heq, hsolid, -⟩ := exists_folded_head hrest indent false column'
    rw [heq]
    exact Text.stops_cons.2 (isGap_of_isSolid hsolid)
  obtain heq | ⟨rfl, -, heq⟩ := folded_spaces indent false first column n rest
  · rw [heq, List.append_assoc] at hc
    have hinline := Cursor.advance_inline Cursor.isInline_spaces hc
    rw [Written.length_spaces] at hinline
    refine ⟨n, _, false, plainGap_spaces (hstops _) hc, Cursor.rest_advance_spaces hc, ?_, hn, ?_⟩
    · rw [hinline]
      push_cast
      omega
    · simp [heq]
  · rw [heq, List.append_assoc] at hc
    have hline := Cursor.advance_newLine hc
    refine ⟨indent + 1, _, true, plainGap_newLine (fresh_of_stops hindent (hstops _)) hc,
      by rw [hline], by rw [hline]; exact hdepth, Nat.succ_pos _, by simp [heq]⟩

/-- A gap starts with a blank or a break. -/
theorem isGap_of_head?_folded {indent n : Nat} {first : Bool} {column : Nat} {rest : List Run}
    {more : List Char} (hn : 0 < n) {ch : Char}
    (h : (folded indent false first column (.spaces n :: rest) ++ more).head? = some ch) :
    isGap ch = true := by
  obtain ⟨n, rfl⟩ := Nat.exists_eq_succ_of_ne_zero (Nat.ne_of_gt hn)
  obtain heq | ⟨-, -, heq⟩ := folded_spaces indent false first column (n + 1) rest
  · rw [heq] at h
    cases h
    rfl
  · rw [heq] at h
    cases h
    rfl

/-- The last word is read up to the line behind the scalar, which is indented less. -/
theorem plainWords_last {depth : Int} {w : List Char} (hk : (k : Int) < depth)
    (htail : LineStart tail) (hw : PlainWord true w) (hc : c.rest = w ++ (newLine k ++ tail))
    (fuel : Nat) (text gap : List Char) (broken : Bool) :
    plainWords false depth (fuel + 1) c text gap broken =
      ((text ++ gap ++ w, true), c.advance (w.length + (k + 1))) := by
  have hrest := Cursor.rest_advance_append hc
  have hcolumn : ((c.advance w.length).advance (k + 1)).column = k := by
    rw [Cursor.advance_newLine hrest]
  have hblank : plainWord false (newLine k ++ tail) = [] := plainWord_of_gap (by
    intro ch h
    cases h
    rfl)
  rw [plainWords_succ hw hblank hc (plainGap_newLine (htail.fresh k) hrest),
    Cursor.advance_add w.length (k + 1) c, hcolumn]
  simp [hk]

/-- A word with a gap behind it is read, and reading goes on behind the gap. -/
theorem plainWords_word {indent n : Nat} {depth : Int} {w : List Char} {rest : List Run}
    {more : List Char} (hindent : 0 < indent) (hdepth : depth ≤ indent) (hw : PlainWord true w)
    (hn : 0 < n) (hrest : PlainRuns true rest) {column : Nat}
    (hc : c.rest = w ++ (folded indent false false column (.spaces n :: rest) ++ more))
    (hcolumn : depth ≤ c.column) (fuel : Nat) (text gap : List Char) (broken : Bool) :
    ∃ m column' broken',
      plainWords false depth (fuel + 1) c text gap broken =
        plainWords false depth fuel (c.advance (w.length + m)) (text ++ gap ++ w) (spaces n)
          broken' ∧
      (c.advance (w.length + m)).rest = folded indent false false column' rest ++ more ∧
      depth ≤ (c.advance (w.length + m)).column ∧
      (folded indent false false column (.spaces n :: rest)).length =
        m + (folded indent false false column' rest).length := by
  have hfront := Cursor.rest_advance_append hc
  have hline := Cursor.advance_inline (fun ch h => isInline_of_isSolid (hw.solid ch h)) hc
  obtain ⟨m, column', broken', hgap, hafter, hdeep, -, hlength⟩ :=
    plainGap_folded hindent hdepth hn hrest (by rw [hline]; push_cast; omega) hfront
  have hcomment : ((c.advance w.length).advance m).seesChar '#' = false := by
    obtain ⟨ch, others, heq, -, hne⟩ := exists_folded_head hrest indent false column'
    refine Cursor.seesChar_eq_false ?_
    rw [hafter, heq]
    exact Text.stops_cons.2 (beq_false_of_ne hne)
  have hblank :
      plainWord false (folded indent false false column (.spaces n :: rest) ++ more) = [] :=
    plainWord_of_gap fun _ h => isGap_of_head?_folded hn h
  have hspaces : (spaces n).isEmpty = false := by
    rw [List.isEmpty_eq_false_iff, ← List.length_pos_iff, Written.length_spaces]
    exact hn
  rw [← Cursor.advance_add] at hafter hdeep hcomment hgap
  refine ⟨m, column', broken', ?_, hafter, hdeep, hlength⟩
  rw [plainWords_succ hw hblank hc hgap, hcomment]
  simp only [hspaces, Bool.false_or, Int.not_lt.2 hdeep, decide_false, Bool.false_eq_true, if_false]

/--
Plain runs are read back, whatever was read before them: the line behind the scalar is indented
less than the scalar, so that it is not read as more of it.
-/
theorem plainWords_folded {indent : Nat} {depth : Int} {runs : List Run} (hdepth : depth ≤ indent)
    (hk : (k : Int) < depth) (htail : LineStart tail) (hruns : PlainRuns true runs)
    {first : Bool} {column fuel : Nat} {text gap : List Char} {broken : Bool}
    (hc : c.rest = folded indent false first column runs ++ (newLine k ++ tail))
    (hcolumn : depth ≤ c.column) (hfuel : c.rest.length < fuel) :
    plainWords false depth fuel c text gap broken =
      ((text ++ gap ++ Written.runsText runs, true),
        c.advance ((folded indent false first column runs).length + (k + 1))) := by
  generalize hbehind : true = behindBlank at hruns
  induction hruns generalizing c first column fuel text gap broken with
  | spaces => cases hbehind
  | @last behindBlank w hw =>
      subst hbehind
      obtain ⟨fuel, rfl⟩ := Nat.exists_eq_succ_of_ne_zero (Nat.ne_of_gt (Nat.zero_lt_of_lt hfuel))
      have htext : folded indent false first column [.word w] = w := by simp [folded]
      rw [htext] at hc ⊢
      rw [plainWords_last hk htail hw hc]
      simp [Written.runsText, Written.Run.text]
  | @word behindBlank w n rest hw hn hrest ih =>
      subst hbehind
      obtain ⟨fuel, rfl⟩ := Nat.exists_eq_succ_of_ne_zero (Nat.ne_of_gt (Nat.zero_lt_of_lt hfuel))
      have htext : folded indent false first column (.word w :: .spaces n :: rest) =
          w ++ folded indent false false (column + w.length) (.spaces n :: rest) := rfl
      rw [htext, List.append_assoc] at hc
      obtain ⟨m, column', broken', hstep, hafter, hdeep, hlength⟩ :=
        plainWords_word (by omega) hdepth hw hn hrest hc hcolumn fuel text gap broken
      have hfuel' : (c.advance (w.length + m)).rest.length < fuel := by
        have hw := List.length_pos_iff.2 hw.ne_nil
        have hlong : w.length ≤ c.rest.length := by simp [hc]
        rw [Cursor.length_rest_advance]
        omega
      rw [hstep, ih hafter hdeep hfuel' rfl, ← Cursor.advance_add, htext]
      simp [Written.runsText, Written.Run.text, hlength, Nat.add_assoc]

/-- A plain scalar is read as the runs it is written from. -/
theorem plainScalar_folded {indent : Nat} {depth : Int} {runs : List Run} (hdepth : depth ≤ indent)
    (hk : (k : Int) < depth) (htail : LineStart tail) (hruns : PlainRuns true runs)
    {first : Bool} {column : Nat}
    (hc : c.rest = folded indent false first column runs ++ (newLine k ++ tail))
    (hcolumn : depth ≤ c.column) :
    plainScalar false depth c =
      ((Written.runsText runs, true),
        c.advance ((folded indent false first column runs).length + (k + 1))) :=
  plainWords_folded hdepth hk htail hruns hc hcolumn (Nat.lt_succ_self _)

/-- What it takes of a text to be written plain. -/
structure PlainText (cs : List Char) : Prop where
  head : ∃ ch rest, cs = ch :: rest ∧ isSolid ch = true ∧ Style.isOpeningMark ch = false ∧
    ((ch == '?' || ch == ':' || ch == '-') = true -> Style.isBlankNext rest = false)
  runs : PlainRuns true (runsOf cs)

theorem plainText_of_allowsPlain {cs : List Char} (h : Style.allowsPlain cs = true) :
    PlainText cs := by
  simp only [Style.allowsPlain, Bool.and_eq_true, Bool.not_eq_true', List.isEmpty_eq_false_iff,
    List.any_eq_false, List.contains_eq_mem, decide_eq_false_iff_not] at h
  obtain ⟨⟨⟨⟨⟨hne, hchars⟩, hbreak⟩, hmark⟩, hhead⟩, hlast⟩ := h
  obtain ⟨ch, rest, rfl⟩ := List.exists_cons_of_ne_nil hne
  have hplain : ∀ d ∈ ch :: rest, d = ' ' ∨ isSolid d = true := by
    intro d hd
    obtain h | rfl | h := eq_or_isSolid_of_isSpecial (Bool.eq_false_iff.2 (hchars d hd))
    · exact .inl h
    · exact absurd hd hbreak
    · exact .inr h
  have hspace : ch ≠ ' ' := by
    rintro rfl
    cases hhead
  have hend : (ch :: rest).getLast? ≠ some ' ' := by
    intro h
    rw [h] at hlast
    cases hlast
  simp only [Style.hasMark, Bool.or_eq_false_iff] at hmark
  obtain ⟨⟨⟨-, hopening⟩, hindicator⟩, hinner⟩ := hmark
  have hindicator' (h : (ch == '?' || ch == ':' || ch == '-') = true) :
      Style.isBlankNext rest = false := by
    rwa [h, Bool.true_and] at hindicator
  have hinner' : Style.hasInnerMark ' ' (ch :: rest) = false := by
    have hcolon : (ch == ':' && Style.isBlankNext rest) = false := by
      cases h : ch == ':' with
      | false => rfl
      | true => exact hindicator' (by simp [h])
    have hcomment : ch ≠ '#' := by
      rintro rfl
      cases hopening
    rw [Style.hasInnerMark, hcolon, hinner, beq_false_of_ne hcomment]
    rfl
  have hruns := plainRuns_runsOf hplain hend hinner'
  rw [bne_iff_ne.2 hspace] at hruns
  exact ⟨⟨ch, rest, rfl, (hplain ch (by simp)).resolve_left hspace, hopening, hindicator'⟩, hruns⟩

end Clearance.Yaml
