import Clearance.Proofs.Yaml.Quoted
import Clearance.Yaml.Token.Lexer
import Clearance.Yaml.Tree

/-!
# Tokens of a written tree

A tree that is written as a text is cut into the tokens that it stands for.  Each piece of the text
is followed up to the place where the next one begins, with the blocks that are open there.
-/

namespace Clearance.Yaml

open Text (Stops)
open Written (newLine)

/-- A name that stands for itself: letters and low lines that are read as a text. -/
structure FieldName (name : String) : Prop where
  ne_nil : name.toList ≠ []
  chars : ∀ ch ∈ name.toList, isFieldChar ch = true
  short : name.length ≤ 1024
  tag : Tag.ofPlain name = .str

theorem FieldName.plainWord {name : String} (h : FieldName name) : PlainWord true name.toList where
  ne_nil := h.ne_nil
  solid ch hch := isSolid_of_isFieldChar (h.chars ch hch)
  head_ne _ hhead := by
    have hch := h.chars _ (List.mem_of_mem_head? hhead)
    cases hch
  last_ne hlast := by
    have hch := h.chars _ (List.mem_of_getLast? hlast)
    cases hch

theorem Style.of_eq_plain {s : String} (h : Style.ofText s = .plain) :
    Style.allowsPlain s.toList = true ∧ Tag.ofPlain s = .str := by
  unfold Style.ofText at h
  dsimp only at h
  split at h
  · rename_i hplain
    exact ⟨(Bool.and_eq_true_iff.1 hplain).1, beq_iff_eq.1 (Bool.and_eq_true_iff.1 hplain).2⟩
  · split at h <;> cases h

theorem Style.of_eq_single {s : String} (h : Style.ofText s = .single) :
    Style.allowsSingle s.toList = true := by
  unfold Style.ofText at h
  dsimp only at h
  split at h
  · cases h
  · split at h
    · assumption
    · cases h

namespace Lexer

/-! ## Steps -/

/-- The place of the next token: blanks are skipped, and keys that are too old forgotten. -/
def settle (l : Lexer) : Except Flaw Lexer :=
  (l.skipBlanks (l.cursor.rest.length + 1)).dropStale

/-- Reads the token at the cursor, or closes all blocks at the end of the text. -/
def act (l : Lexer) : Except Flaw (Lexer × Bool) :=
  match l.cursor.rest with
  | [] => do return (<- (l.closeBlocks (-1)).dropPending, true)
  | ch :: _ => do return (<- readToken ch l, false)

theorem readAll_succ (fuel : Nat) (l : Lexer) :
    readAll (fuel + 1) l =
      match l.settle.bind fun l => (l.closeBlocks l.cursor.column).act with
      | .error flaw => (l.tokens, some flaw)
      | .ok (l, true) => (l.tokens, none)
      | .ok (l, false) => readAll fuel l := by
  rfl

/-- How much of the text is left. -/
def size (l : Lexer) : Nat :=
  l.cursor.rest.length

/-- A lexer outside of all flow brackets without pending keys. -/
def standing (c : Cursor) (allowed : Bool) (ts : List Token) (b : Int) (outer : List Int) : Lexer :=
  { cursor := c, tokens := ts.toArray, indent := b, outer, keyAllowed := allowed }

/--
The next token stands at a column and begins a text.  Once the blocks that are deeper are closed,
the lexer is as if it had read these tokens inside of these blocks.
-/
def ComesTo (l : Lexer) (allowed : Bool) (ts : List Token) (b : Int) (outer : List Int) (k : Nat)
    (t : List Char) : Prop :=
  ∃ c : Cursor, c.rest = t ∧ c.column = k ∧ t.length ≤ l.size ∧ ∃ l', l.settle = .ok l' ∧
    l'.cursor = c ∧ l'.closeBlocks k = (standing c allowed ts b outer).closeBlocks k

variable {l l' : Lexer} {c : Cursor} {allowed : Bool} {ts : List Token} {b b' : Int}
  {outer : List Int} {k : Nat} {t tail : List Char}

/-! ## Blocks -/

@[simp] theorem cursor_closeBlocks (column : Int) (l : Lexer) :
    (l.closeBlocks column).cursor = l.cursor := by
  unfold closeBlocks
  split <;> rfl

theorem closeBlocks_of_le {column : Int} (h : l.indent ≤ column) : l.closeBlocks column = l := by
  have hnone : (l.indent :: l.outer).takeWhile (fun b => decide (column < b)) = [] := by
    rw [List.takeWhile_cons, if_neg (by simpa using h)]
  unfold closeBlocks
  split
  · rfl
  · simp [hnone]

/-- A block that is deeper than the column ends there. -/
theorem closeBlocks_of_lt {column : Int} (h : column < b') :
    (standing c allowed ts b' (b :: outer)).closeBlocks column =
      (standing c allowed (ts ++ [.blockEnd]) b outer).closeBlocks column := by
  have hfirst : (b' :: b :: outer).takeWhile (fun b => decide (column < b)) =
      b' :: (b :: outer).takeWhile (fun b => decide (column < b)) := by
    rw [List.takeWhile_cons, if_pos (by simpa using h)]
  have htokens (n : Nat) : ts.toArray ++ Array.replicate (n + 1) Token.blockEnd =
      (ts ++ [Token.blockEnd]).toArray ++ Array.replicate n Token.blockEnd := by
    rw [← Array.toList_inj]
    simp [List.replicate_succ]
  simp [closeBlocks, standing, hfirst, htokens]

theorem ComesTo.close (h : l.ComesTo allowed ts b' (b :: outer) k t) (hk : (k : Int) < b') :
    l.ComesTo allowed (ts ++ [.blockEnd]) b outer k t := by
  obtain ⟨c, hrest, hcolumn, hsize, l', hsettle, hcursor, hclose⟩ := h
  exact ⟨c, hrest, hcolumn, hsize, l', hsettle, hcursor, hclose.trans (closeBlocks_of_lt hk)⟩

/-- One token, read at the place that the lexer settles at. -/
theorem leads_of_readToken {m l₁ : Lexer} {ch : Char} {rest : List Char}
    (hsettle : l.settle = .ok m) (hclose : m.closeBlocks m.cursor.column = l₁)
    (hc : l₁.cursor.rest = ch :: rest) (hread : readToken ch l₁ = .ok l')
    (hsize : l'.size < l.size) : Leads readAll size l l' := by
  refine Leads.step hsize fun fuel => ?_
  have hact : l₁.act = .ok (l', false) := by
    rw [act, hc]
    simp only [hread]
    rfl
  rw [readAll_succ, hsettle]
  simp only [Except.bind, hclose, hact]

/-- A token that is read where the lexer comes to. -/
theorem ComesTo.leads {ch : Char} {rest : List Char}
    (h : l.ComesTo allowed ts b outer k (ch :: rest)) (hb : b ≤ k) {Q : Lexer -> Prop}
    (hread : ∀ c : Cursor, c.rest = ch :: rest -> c.column = k ->
      ∃ l', readToken ch (standing c allowed ts b outer) = .ok l' ∧ l'.size ≤ rest.length ∧ Q l') :
    ∃ l', Leads readAll size l l' ∧ Q l' := by
  obtain ⟨c, hrest, hcolumn, hsize, m, hsettle, hcursor, hclose⟩ := h
  obtain ⟨l', hl', hsize', hQ⟩ := hread c hrest hcolumn
  rw [closeBlocks_of_le (show (standing c allowed ts b outer).indent ≤ k from hb)] at hclose
  have hclose' : m.closeBlocks m.cursor.column = standing c allowed ts b outer := by
    rw [hcursor, hcolumn, hclose]
  rw [List.length_cons] at hsize
  exact ⟨l', leads_of_readToken hsettle hclose' hrest hl' (by omega), hQ⟩

/-! ## Coming to a token -/

/-- A text that begins with neither a blank nor a comment. -/
structure Sheer (t : List Char) : Prop where
  stops : Stops isGap t
  comment : Stops (· == '#') t

theorem sheer_of_lineStart (h : LineStart t) : Sheer t :=
  ⟨(h.fresh 0).stops, h.stops_comment⟩

/-- Spaces are skipped up to a token. -/
theorem skipBlanks_spaces {n : Nat} (ht : Sheer t) (hl : l.cursor.rest = Written.spaces n ++ t)
    (fuel : Nat) : l.skipBlanks (fuel + 1) = l.moveTo (l.cursor.advance n) := by
  have hfresh := fresh_of_stops Nat.one_pos ht.stops
  have hrest := Cursor.rest_advance_spaces hl
  have hskip := Cursor.skipWhile_append
    (fun ch h => by rw [List.eq_of_mem_replicate h]; rfl) hfresh.stops_space hl
  rw [Written.length_spaces] at hskip
  have hcomment := Cursor.seesChar_eq_false (hrest.symm ▸ ht.comment)
  have hbreak := Cursor.takeBreak?_of_stops (hrest.symm ▸ hfresh.stops_break)
  rw [skipBlanks, Lexer.spaces, hskip, hcomment]
  simp only [Bool.false_eq_true, if_false, hbreak]

/-- The end of a line is skipped, and the indentation of the next one: a key may stand there. -/
theorem skipBlanks_newLine (ht : Sheer t) (hflow : l.flow = 0)
    (hl : l.cursor.rest = newLine k ++ t) (fuel : Nat) :
    l.skipBlanks (fuel + 2) =
      { l with cursor := l.cursor.advance (k + 1), keyAllowed := true } := by
  have hskip := @Cursor.skipWhile_of_stops l.cursor (· == ' ') (hl ▸ Text.stops_cons.2 (by decide))
  have hcomment := @Cursor.seesChar_eq_false l.cursor '#' (hl ▸ Text.stops_cons.2 (by decide))
  have hbreak := Cursor.takeBreak?_lineFeed hl
  rw [skipBlanks, Lexer.spaces, hskip, hcomment]
  simp only [Bool.false_eq_true, if_false, hbreak]
  rw [skipBlanks_spaces ht (Cursor.rest_next_cons hl)]
  simp only [moveTo, hflow, decide_true, Bool.or_true]
  rfl

/-- The pending keys are optional, and their lines lie above a line. -/
def Outdated (line : Nat) (l : Lexer) : Prop :=
  ∀ p ∈ l.pending, p.2.required = false ∧ p.2.line < line

theorem dropStale_of_outdated (h : Outdated l.cursor.line l) :
    l.dropStale = .ok { l with pending := [] } := by
  have hstale : ∀ p ∈ l.pending, PendingKey.isStale p.2 l.cursor = true := by
    intro p hp
    simp [PendingKey.isStale, Nat.ne_of_lt (h p hp).2]
  have hany : (l.pending.any fun p => PendingKey.isStale p.2 l.cursor && p.2.required) = false := by
    rw [List.any_eq_false]
    intro p hp
    simp [(h p hp).1]
  have hfilter : (l.pending.filter fun p => !PendingKey.isStale p.2 l.cursor) = [] := by
    rw [List.filter_eq_nil_iff]
    intro p hp
    simp [hstale p hp]
  calc
    l.dropStale =
        if (l.pending.any fun p => PendingKey.isStale p.2 l.cursor && p.2.required) = true then
          .error .missingColon
        else .ok { l with pending := l.pending.filter fun p => !PendingKey.isStale p.2 l.cursor } :=
      rfl
    _ = .ok { l with pending := [] } := by
      rw [hany, hfilter]
      rfl

theorem settle_spaces {n : Nat} (ht : Sheer t) (hl : l.cursor.rest = Written.spaces n ++ t)
    (hold : Outdated (l.cursor.advance n).line l) :
    l.settle = .ok { l with cursor := l.cursor.advance n, pending := [] } := by
  rw [settle, skipBlanks_spaces ht hl, dropStale_of_outdated hold]
  rfl

theorem settle_newLine (ht : Sheer t) (hflow : l.flow = 0)
    (hl : l.cursor.rest = newLine k ++ t) (hold : Outdated (l.cursor.advance (k + 1)).line l) :
    l.settle =
      .ok { l with cursor := l.cursor.advance (k + 1), keyAllowed := true, pending := [] } := by
  have hfuel : l.cursor.rest.length + 1 = (k + t.length) + 2 := by
    rw [hl, List.length_append, Written.length_newLine]
    omega
  rw [settle, hfuel, skipBlanks_newLine ht hflow hl, dropStale_of_outdated hold]

/-- What stays the same of a lexer while it comes to the next token. -/
structure Within (l : Lexer) (ts : List Token) (b : Int) (outer : List Int) : Prop where
  tokens : l.tokens = ts.toArray
  flow : l.flow = 0
  indent : l.indent = b
  outer : l.outer = outer

theorem within_standing : Within (standing c allowed ts b outer) ts b outer :=
  ⟨rfl, rfl, rfl, rfl⟩

theorem Within.eq_standing (h : Within l ts b outer) :
    { l with cursor := c, keyAllowed := allowed, pending := [] } =
      standing c allowed ts b outer := by
  rw [standing, h.tokens, h.flow, h.indent, h.outer]

/-- A token on the same line. -/
theorem Within.comesTo_spaces {n : Nat} (h : Within l ts b outer) (ht : Sheer t)
    (hl : l.cursor.rest = Written.spaces n ++ t) (hold : Outdated (l.cursor.advance n).line l) :
    l.ComesTo l.keyAllowed ts b outer (l.cursor.column + n) t := by
  have hcolumn : (l.cursor.advance n).column = l.cursor.column + n := by
    have := Cursor.advance_inline Cursor.isInline_spaces hl
    rw [Written.length_spaces] at this
    rw [this]
  refine ⟨_, Cursor.rest_advance_spaces hl, hcolumn, ?_, _, settle_spaces ht hl hold, rfl, ?_⟩
  · rw [size, hl, List.length_append]
    omega
  · rw [← h.eq_standing]

/-- A token at the start of the next line. -/
theorem Within.comesTo_newLine (h : Within l ts b outer) (ht : Sheer t)
    (hl : l.cursor.rest = newLine k ++ t) (hold : Outdated (l.cursor.line + 1) l) :
    l.ComesTo true ts b outer k t := by
  have hline := Cursor.advance_newLine hl
  have hold' : Outdated (l.cursor.advance (k + 1)).line l := by
    rw [hline]
    exact hold
  refine ⟨l.cursor.advance (k + 1), by rw [hline], by rw [hline], ?_, _,
    settle_newLine ht h.flow hl hold', rfl, ?_⟩
  · rw [size, hl, List.length_append]
    omega
  · rw [h.eq_standing]

theorem standing_space (ht : Sheer t) (hc : c.rest = ' ' :: t) :
    (standing c allowed ts b outer).ComesTo allowed ts b outer (c.column + 1) t :=
  @Within.comesTo_spaces _ _ _ _ _ 1 within_standing ht hc (by simp [Outdated, standing])

theorem standing_newLine (ht : Sheer t) (hc : c.rest = newLine k ++ t) :
    (standing c allowed ts b outer).ComesTo true ts b outer k t :=
  within_standing.comesTo_newLine ht hc (by simp [Outdated, standing])

/-! ## Kinds of tokens -/

/-- No document mark stands at the cursor, or it is not at the start of a line. -/
def Unmarked (c : Cursor) : Prop :=
  c.column = 0 -> c.seesDocumentMark = false

theorem Unmarked.seesMark_eq (h : Unmarked c) :
    (decide (c.column = 0) && c.seesMark '-') = false ∧
      (decide (c.column = 0) && c.seesMark '.') = false := by
  by_cases hcolumn : c.column = 0
  · have hmark := h hcolumn
    rw [Cursor.seesDocumentMark, Bool.or_eq_false_iff] at hmark
    simp [hmark.1, hmark.2]
  · simp [hcolumn]

theorem unmarked_of_lineStart (hc : c.rest = t) (ht : LineStart t) : Unmarked c :=
  fun _ => (ht.fresh 0).unmarked rfl c hc

theorem unmarked_of_pos (h : 0 < c.column) : Unmarked c :=
  fun hzero => absurd hzero (Nat.ne_of_gt h)

theorem ne_of_isOpeningMark {ch other : Char} (h : Style.isOpeningMark ch = false)
    (hother : Style.isOpeningMark other = true) : ch ≠ other := by
  rintro rfl
  rw [h] at hother
  cases hother

/-- A character that has no meaning of its own here starts a plain scalar. -/
theorem readToken_plain {ch : Char} (hflow : l.flow = 0) (hmark : Unmarked l.cursor)
    (hsolid : isSolid ch = true) (hopening : Style.isOpeningMark ch = false)
    (hword : (ch == '?' || ch == ':' || ch == '-') = true -> l.cursor.endsWordAt 1 = false) :
    readToken ch l = l.plain := by
  have hne {other : Char} (h : Style.isOpeningMark other = true) : (ch == other) = false :=
    beq_false_of_ne (ne_of_isOpeningMark hopening h)
  have hgap := isGap_of_isSolid hsolid
  rw [isGap, Bool.or_eq_false_iff] at hgap
  obtain ⟨hdash, hdot⟩ := hmark.seesMark_eq
  have hspaced : (ch == '-' && l.cursor.endsWordAt 1) = false ∧
      (ch == '?' && (l.flow != 0 || l.cursor.endsWordAt 1)) = false ∧
      (ch == ':' && (l.flow != 0 || l.cursor.endsWordAt 1)) = false ∧ l.startsPlain ch = true := by
    by_cases hmarked : (ch == '?' || ch == ':' || ch == '-') = true
    · simp only [Bool.or_eq_true, beq_iff_eq] at hmarked
      simp only [hflow, startsPlain, hword (by simpa using hmarked)]
      obtain (rfl | rfl) | rfl := hmarked <;> decide
    · simp only [Bool.or_eq_true, not_or, Bool.not_eq_true] at hmarked
      obtain ⟨⟨hquery, hcolon⟩, hhyphen⟩ := hmarked
      have hindicator : isIndicator ch = false := by
        have hall : "-?:,[]\x7b\x7d#&*!|>'\"%@\x60".toList.all
            (fun d => d == '-' || d == '?' || d == ':' || Style.isOpeningMark d) = true := by
          decide
        rw [isIndicator, List.contains_eq_mem, decide_eq_false_iff_not]
        intro hmem
        simpa [hquery, hcolon, hhyphen, hopening] using List.all_eq_true.1 hall ch hmem
      simp [hquery, hcolon, hhyphen, startsPlain, hindicator, hgap.1, hgap.2]
  obtain ⟨hhyphen, hquery, hcolon, hstarts⟩ := hspaced
  unfold readToken
  simp only [hne (show Style.isOpeningMark '%' = true by decide),
    hne (show Style.isOpeningMark '[' = true by decide),
    hne (show Style.isOpeningMark '\x7b' = true by decide),
    hne (show Style.isOpeningMark ']' = true by decide),
    hne (show Style.isOpeningMark '\x7d' = true by decide),
    hne (show Style.isOpeningMark ',' = true by decide),
    hne (show Style.isOpeningMark '*' = true by decide),
    hne (show Style.isOpeningMark '&' = true by decide),
    hne (show Style.isOpeningMark '!' = true by decide),
    hne (show Style.isOpeningMark '|' = true by decide),
    hne (show Style.isOpeningMark '>' = true by decide),
    hne (show Style.isOpeningMark '\'' = true by decide),
    hne (show Style.isOpeningMark '"' = true by decide),
    hdash, hdot, hhyphen, hquery, hcolon, hstarts, Bool.false_and, Bool.false_eq_true, if_false, if_true]

/-- A quote starts a quoted scalar. -/
theorem readToken_quoted {double : Bool} {quote : Char} {rest : List Char}
    (hquote : quote = if double then '"' else '\'') (hc : l.cursor.rest = quote :: rest) :
    readToken quote l = l.quoted double := by
  subst hquote
  cases double with
  | true => simp [readToken, Cursor.seesMark, hc]
  | false => simp [readToken, Cursor.seesMark, hc]

/-- A plain scalar is noted as a key where one may stand, and then read. -/
theorem plain_eq {l₁ : Lexer} {text : List Char} {broken : Bool} (hnote : l.notePending = .ok l₁)
    (hflow : l₁.flow = 0)
    (hread : plainScalar false (l₁.indent + 1) l₁.cursor = ((text, broken), c)) :
    l.plain = .ok { l₁ with
      cursor := c, tokens := l₁.tokens.push (.scalar (String.ofList text) true true)
      keyAllowed := broken } := by
  have hread' : plainScalar (l₁.flow != 0) (l₁.indent + 1) l₁.cursor = ((text, broken), c) := by
    rw [hflow]
    exact hread
  unfold plain
  rw [hnote]
  simp only [bind, Except.bind, hread']
  rfl

/-- A quoted scalar is noted as a key where one may stand, and then read. -/
theorem quoted_eq {l₁ : Lexer} {q : Quote} {double : Bool} (hnote : l.notePending = .ok l₁)
    (hread : quotedScalar double l₁.cursor = .ok (q, c)) :
    l.quoted double = .ok { l₁ with
      cursor := c, tokens := l₁.tokens.push (.scalar (String.ofList q.text) false q.sound)
      keyAllowed := false } := by
  unfold quoted atom
  rw [hnote]
  simp only [bind, Except.bind, hread]
  rfl

/-- A word that may be a key is a plain scalar, and so is noted as a pending key. -/
theorem exists_notePending (hb : b ≠ c.column) :
    ∃ pending, (standing c allowed ts b outer).notePending =
        .ok { standing c allowed ts b outer with pending } ∧
      ∀ p ∈ pending, p.2.required = false ∧ p.2.line = c.line := by
  cases allowed with
  | false => exact ⟨[], rfl, by simp⟩
  | true =>
      refine ⟨_, rfl, ?_⟩
      intro p hp
      obtain rfl := List.mem_singleton.1 hp
      exact ⟨by simp [standing, hb], rfl⟩

/-! ## Keys -/

/-- The lexer behind a word that may be a key, with the place where the word began. -/
def behindWord (c start : Cursor) (ts : List Token) (b : Int) (outer : List Int) (name : String) :
    Lexer :=
  { standing c false (ts ++ [.scalar name true true]) b outer with
    pending := [(0, { place := ts.length, required := b = start.column
                      index := start.index, line := start.line, column := start.column })] }

/-- A word in front of a colon is a plain scalar of its own. -/
theorem plainScalar_word {w rest : List Char} {d : Char} (hw : PlainWord true w)
    (hd : isGap d = true) (depth : Int) (hc : c.rest = w ++ ':' :: d :: rest) :
    plainScalar false depth c = ((w, false), c.advance w.length) := by
  have hbehind := Cursor.rest_advance_append hc
  have hcolon : plainWord false (':' :: d :: rest) = [] := by
    rw [isGap] at hd
    simp [plainWord, hd]
  have hgap : plainGap (c.advance w.length) =
      { text := [], after := c.advance w.length, broken := false } := by
    have htake := @Cursor.takeWhile_of_stops (c.advance w.length) (· == ' ')
      (hbehind ▸ Text.stops_cons.2 (by decide))
    have hbreak := @Cursor.takeBreak?_of_stops (c.advance w.length)
      (hbehind ▸ Text.stops_cons.2 (by decide))
    unfold plainGap
    rw [htake]
    dsimp only
    rw [hbreak]
  rw [plainScalar, plainWords_succ hw hcolon hc hgap]
  rfl

/-- The tokens of a name, and of the block that it opens if it is deeper than the one around it. -/
def keyTokens (b : Int) (k : Nat) (name : String) : List Token :=
  (if b < k then [.blockMappingStart] else []) ++ [.key, .scalar name true true, .value]

/-- The blocks around the one that a name stands in. -/
def blocksAround (b : Int) (k : Nat) (outer : List Int) : List Int :=
  if b < k then b :: outer else outer

/-- The colon behind a word makes it a key. -/
theorem value_behindWord {start : Cursor} {name : String} (hk : start.column = k) (hb : b ≤ k) :
    (behindWord c start ts b outer name).value =
      .ok (standing c.next false (ts ++ keyTokens b k name) k (blocksAround b k outer)) := by
  obtain hlt | heq := Int.lt_or_eq_of_le hb
  · simp [value, behindWord, standing, openBlock?, keyTokens, blocksAround, hk, hlt, push, moveTo,
      bind, Except.bind, pure, Except.pure]
  · simp [value, behindWord, standing, openBlock?, keyTokens, blocksAround, hk, heq, push, moveTo,
      bind, Except.bind, pure, Except.pure]

theorem settle_behindWord {start : Cursor} {name : String} (ht : Sheer c.rest)
    (hline : c.line = start.line) (hindex : c.index ≤ start.index + 1024) :
    (behindWord c start ts b outer name).settle = .ok (behindWord c start ts b outer name) := by
  have hstale : PendingKey.isStale { place := ts.length, required := b = start.column
                                     index := start.index, line := start.line
                                     column := start.column } c = false := by
    simp [PendingKey.isStale, hline]
    omega
  rw [settle, skipBlanks_spaces ht (show c.rest = Written.spaces 0 ++ c.rest from rfl), dropStale]
  simp [behindWord, standing, moveTo, Cursor.advance, hstale]

/-- A colon in front of a gap ends a key. -/
theorem readToken_colon {d : Char} {rest : List Char} (hc : l.cursor.rest = ':' :: d :: rest)
    (hd : isGap d = true) : readToken ':' l = l.value := by
  have hdash : l.cursor.seesMark '-' = false := by simp [Cursor.seesMark, hc]
  have hdot : l.cursor.seesMark '.' = false := by simp [Cursor.seesMark, hc]
  have hends : l.cursor.endsWordAt 1 = true := by
    simpa [Cursor.endsWordAt, Cursor.at?, hc, isGap] using hd
  simp [readToken, hdash, hdot, hends]

/-- A name is read as a word that may be a key. -/
theorem readToken_name {name : String} (hname : FieldName name) {ch d : Char}
    {more rest : List Char} (hcons : name.toList = ch :: more) (hd : isGap d = true)
    (hc : c.rest = name.toList ++ ':' :: d :: rest) :
    readToken ch (standing c true ts b outer) =
      .ok (behindWord (c.advance name.length) c ts b outer name) := by
  have hch : isFieldChar ch = true := hname.chars ch (by simp [hcons])
  have hopening : Style.isOpeningMark ch = false := by
    have hall : "#,[]\x7b\x7d&*!|>'\"%@\x60".toList.all (fun d => !isFieldChar d) = true := by
      decide
    rw [Style.isOpeningMark, List.contains_eq_mem, decide_eq_false_iff_not]
    intro hmem
    have hnot : (!isFieldChar ch) = true := List.all_eq_true.1 hall ch hmem
    rw [hch] at hnot
    cases hnot
  have hne {other : Char} (h : isFieldChar other = false) : (ch == other) = false :=
    beq_false_of_ne (ne_of_isFieldChar hch h)
  have hstart : c.rest = ch :: (more ++ ':' :: d :: rest) := by
    rw [hc, hcons]
    rfl
  have hunmarked : Unmarked c := unmarked_of_lineStart hstart (.name hch)
  have hplain : readToken ch (standing c true ts b outer) = (standing c true ts b outer).plain :=
    readToken_plain rfl hunmarked (isSolid_of_isFieldChar hch) hopening (by
      rw [hne (by decide), hne (by decide), hne (by decide)]
      intro h
      cases h)
  have hscalar := plainScalar_word hname.plainWord hd (b + 1) hc
  have hnote : (standing c true ts b outer).notePending = .ok { standing c true ts b outer with
      pending := [(0, { place := ts.length, required := b = c.column, index := c.index
                        line := c.line, column := c.column })] } := by
    simp [notePending, standing, dropPending, bind, Except.bind, pure, Except.pure]
  rw [hplain, plain_eq hnote rfl hscalar]
  simp [behindWord, standing, String.length_toList]

/-- A name with its colon. -/
theorem ComesTo.key {name : String} (hname : FieldName name) {d : Char} {rest : List Char}
    (hd : isGap d = true) (hb : b ≤ k)
    (h : l.ComesTo true ts b outer k (name.toList ++ ':' :: d :: rest)) :
    ∃ c : Cursor, c.rest = d :: rest ∧ c.column = k + name.length + 1 ∧
      Leads readAll size l
        (standing c false (ts ++ keyTokens b k name) k (blocksAround b k outer)) := by
  obtain ⟨ch, more, hcons⟩ := List.exists_cons_of_ne_nil hname.ne_nil
  have hafter (start : Cursor) (h : start.rest = name.toList ++ ':' :: d :: rest) :
      start.advance name.length =
        { rest := ':' :: d :: rest, index := start.index + name.length, line := start.line
          column := start.column + name.length } :=
    Cursor.advance_inline (fun ch h => isInline_of_isSolid (hname.plainWord.solid ch h)) h
  rw [hcons, List.cons_append] at h
  obtain ⟨_, hword, start, hstart, hcolumn, rfl⟩ := h.leads hb
    (Q := fun l' => ∃ start : Cursor, start.rest = name.toList ++ ':' :: d :: rest ∧
      start.column = k ∧ l' = behindWord (start.advance name.length) start ts b outer name) (by
    intro start hstart hcolumn
    have hstart' : start.rest = name.toList ++ ':' :: d :: rest := by rw [hstart, hcons]; rfl
    refine ⟨_, readToken_name hname hcons hd hstart', ?_, start, hstart', hcolumn, rfl⟩
    simp [size, behindWord, standing, hafter start hstart'])
  have hline := hafter start hstart
  have hsettle : (behindWord (start.advance name.length) start ts b outer name).settle =
      .ok (behindWord (start.advance name.length) start ts b outer name) := by
    refine settle_behindWord ?_ ?_ ?_
    · rw [hline]
      exact ⟨Text.stops_cons.2 (by decide), Text.stops_cons.2 (by decide)⟩
    · rw [hline]
    · rw [hline]
      exact Nat.add_le_add_left hname.short _
  have hopen : (behindWord (start.advance name.length) start ts b outer name).indent ≤
      ((start.advance name.length).column : Int) := by
    rw [hline]
    simp only [behindWord, standing, hcolumn, Int.natCast_add]
    omega
  have hrest : (start.advance name.length).rest = ':' :: d :: rest := by rw [hline]
  have hnext := Cursor.rest_next_cons hrest
  refine ⟨(start.advance name.length).next, hnext, ?_, hword.trans ?_⟩
  · rw [Cursor.next, hline]
    simp [isBreak, isByteOrderMark, hcolumn]
  · refine leads_of_readToken hsettle (closeBlocks_of_le hopen) hrest
      ((readToken_colon hrest hd).trans (value_behindWord hcolumn hb)) ?_
    simp [size, behindWord, standing, hrest, hnext]

/-! ## Scalars -/

section Scalars

variable {cs : List Char} {indent column : Nat}

/-- A plain scalar is not taken for anything else. -/
theorem exists_plain_head (hcs : PlainText cs) (indent column : Nat) (t : List Char) :
    ∃ ch rest, Written.folded indent false true column (Written.runsOf cs) ++ t = ch :: rest ∧
      Sheer (ch :: rest) ∧ ∀ l : Lexer, l.flow = 0 -> 0 < l.cursor.column ->
        l.cursor.rest = ch :: rest -> readToken ch l = l.plain := by
  obtain ⟨ch, rest, rfl, hsolid, hopening, hword⟩ := hcs.head
  obtain ⟨w, runs, heq⟩ := Written.exists_runsOf_word (ne_of_isSolid hsolid (by decide))
    (ne_of_isSolid hsolid (by decide)) rest
  refine ⟨ch, w ++ Written.folded indent false false (column + (ch :: w).length) runs ++ t,
    by rw [heq]; rfl, ⟨Text.stops_cons.2 (isGap_of_isSolid hsolid), Text.stops_cons.2
      (beq_false_of_ne (ne_of_isOpeningMark hopening (by decide)))⟩, ?_⟩
  intro l hflow hcolumn hl
  refine readToken_plain hflow (unmarked_of_pos hcolumn) hsolid hopening fun h => ?_
  cases rest with
  | nil => cases hword h
  | cons d rest =>
      have hblank : (d == '\x00' || isSpaceOrTab d || isBreak d) = false := hword h
      simp only [Bool.or_eq_false_iff] at hblank
      have hspace : d ≠ ' ' := by
        rintro rfl
        cases hblank.1.2
      have hbreak : d ≠ '\n' := by
        rintro rfl
        cases hblank.2
      obtain ⟨w', runs', heq'⟩ := Written.exists_runsOf_word hspace hbreak rest
      have hw : w = d :: w' := by
        have hne := ne_of_isSolid hsolid (show isSolid ' ' = false by decide)
        have hne' := ne_of_isSolid hsolid (show isSolid '\n' = false by decide)
        rw [Written.runsOf_cons, heq'] at heq
        simp only [Written.addToRuns, beq_false_of_ne hne, beq_false_of_ne hne'] at heq
        cases heq
        rfl
      simp [Cursor.endsWordAt, Cursor.at?, hl, hw, hblank.1.2, hblank.2]

/-- A plain scalar, up to the line behind it. -/
theorem plain_comesTo (hcs : PlainText cs) (hb : b ≤ c.column) (hk : k ≤ b) (hindent : b < indent)
    (htail : LineStart tail)
    (hc : c.rest = ' ' :: (Written.folded indent false true column (Written.runsOf cs) ++
      (newLine k ++ tail))) :
    ∃ l', Leads readAll size (standing c allowed ts b outer) l' ∧
      l'.ComesTo true (ts ++ [.scalar (String.ofList cs) true true]) b outer k tail := by
  obtain ⟨ch, rest, hhead, hsheer, hplain⟩ := exists_plain_head hcs indent column (newLine k ++ tail)
  rw [hhead] at hc
  refine (standing_space hsheer hc).leads (by omega) ?_
  intro c' hrest hcolumn
  have hrest' : c'.rest = Written.folded indent false true column (Written.runsOf cs) ++
      (newLine k ++ tail) := hrest.trans hhead.symm
  have hread : plainScalar false (b + 1) c' = _ :=
    plainScalar_folded hindent (by omega) htail hcs.runs hrest' (by omega)
  rw [Written.runsText_runsOf, Cursor.advance_add] at hread
  have hline := Cursor.advance_newLine (Cursor.rest_advance_append hrest')
  rw [hline] at hread
  obtain ⟨pending, hnote, hpending⟩ := @exists_notePending c' allowed ts b outer (by omega)
  refine ⟨_, (hplain _ rfl (by simp [standing, hcolumn]) hrest).trans (plain_eq hnote rfl hread),
    ?_, ?_⟩
  · have hlength := congrArg List.length hhead
    simp only [List.length_append, Written.length_newLine, List.length_cons] at hlength
    simp only [size]
    omega
  · refine Within.comesTo_spaces (n := 0) ⟨by simp [standing], rfl, rfl, rfl⟩
      (sheer_of_lineStart htail) rfl fun p hp => ⟨(hpending p hp).1, ?_⟩
    rw [(hpending p hp).2]
    exact Nat.lt_succ_of_le (Cursor.line_le_advance _ _)

/-- A quoted scalar, up to the line behind it. -/
theorem quoted_comesTo (double : Bool) {quote : Char} {body : List Char}
    (hquote : quote = if double then '"' else '\'') (hb : b ≤ c.column)
    (htail : LineStart tail) (hc : c.rest = ' ' :: quote :: (body ++ quote :: (newLine k ++ tail)))
    (hread : ∀ c : Cursor, c.rest = quote :: (body ++ quote :: (newLine k ++ tail)) ->
      quotedScalar double c = .ok ({ text := cs }, c.advance (body.length + 2))) :
    ∃ l', Leads readAll size (standing c allowed ts b outer) l' ∧
      l'.ComesTo true (ts ++ [.scalar (String.ofList cs) false true]) b outer k tail := by
  have hsheer : Sheer (quote :: (body ++ quote :: (newLine k ++ tail))) := by
    subst hquote
    cases double <;> exact ⟨Text.stops_cons.2 (by decide), Text.stops_cons.2 (by decide)⟩
  refine (standing_space hsheer hc).leads (by omega) ?_
  intro c' hrest hcolumn
  have hbehind : (c'.advance (body.length + 2)).rest = newLine k ++ tail := by
    have hpiece : c'.rest = (quote :: (body ++ [quote])) ++ (newLine k ++ tail) := by
      rw [hrest]
      simp
    have := Cursor.rest_advance_append hpiece
    rwa [List.length_cons, List.length_append] at this
  obtain ⟨pending, hnote, hpending⟩ := @exists_notePending c' allowed ts b outer (by omega)
  refine ⟨_, (readToken_quoted hquote hrest).trans (quoted_eq hnote (hread c' hrest)), ?_, ?_⟩
  · simp [size, hbehind]
    omega
  · refine Within.comesTo_newLine ⟨by simp [standing], rfl, rfl, rfl⟩ (sheer_of_lineStart htail)
      hbehind fun p hp => ⟨(hpending p hp).1, ?_⟩
    rw [(hpending p hp).2]
    exact Nat.lt_succ_of_le (Cursor.line_le_advance _ _)

/-- A text, in whatever style it is written. -/
theorem text_comesTo (s : String) (hb : b ≤ c.column) (hk : k ≤ b) (hindent : b < indent)
    (hpos : 0 < indent) (hroom : indent < Written.width) (htail : LineStart tail)
    (hc : c.rest = ' ' :: (Written.scalar indent column s ++ (newLine k ++ tail))) :
    ∃ l', Leads readAll size (standing c allowed ts b outer) l' ∧
      l'.ComesTo true (ts ++ [.scalar s (Style.ofText s == .plain) true]) b outer k tail := by
  unfold Written.scalar at hc
  have htext : String.ofList s.toList = s := String.ofList_toList
  cases hstyle : Style.ofText s with
  | plain =>
      rw [hstyle] at hc
      have hplain := plainText_of_allowsPlain (Style.of_eq_plain hstyle).1
      rw [← htext]
      exact plain_comesTo hplain hb hk hindent htail hc
  | single =>
      rw [hstyle] at hc
      dsimp only at hc
      have hsingle := Style.of_eq_single hstyle
      simp only [List.cons_append, List.append_assoc, List.nil_append] at hc
      rw [← htext]
      exact quoted_comesTo false rfl hb htail hc fun c' hc' =>
        quotedScalar_single hsingle hpos hc'
  | double =>
      rw [hstyle] at hc
      dsimp only at hc
      simp only [List.cons_append, List.append_assoc, List.nil_append] at hc
      rw [← htext]
      exact quoted_comesTo true rfl hb htail hc fun c' hc' =>
        quotedScalar_double hpos hroom hc'

end Scalars

end Lexer

end Clearance.Yaml
