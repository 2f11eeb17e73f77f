import Clearance.Proofs.Yaml.Lexing

/-!
# Trees as tokens

A tree of records, lists of anything but lists, texts and Booleans is written as a text whose
tokens are those of the tree.  The columns decide which fields and items belong together.
-/

namespace Clearance.Yaml

open Text (Stops)
open Written (newLine)
open Lexer (standing size readAll keyTokens blocksAround)

namespace Tree

/-! ## Tokens -/

mutual

/-- The tokens of a tree; a list has no block of its own. -/
def tokens : Tree -> List Token
  | .flag b => [.scalar (if b then "true" else "false") true true]
  | .text s => [.scalar s (Style.ofText s == .plain) true]
  | .list [] => [.flowSequenceStart, .flowSequenceEnd]
  | .list (t :: rest) => itemsTokens (t :: rest)
  | .record fields => .blockMappingStart :: fieldsTokens fields ++ [.blockEnd]

def itemsTokens : List Tree -> List Token
  | [] => []
  | t :: rest => .entry :: tokens t ++ itemsTokens rest

def fieldsTokens : List (String × Tree) -> List Token
  | [] => []
  | (name, t) :: rest =>
      .key :: .scalar name true true :: .value :: tokens t ++ fieldsTokens rest

end

def isList : Tree -> Bool
  | .list _ => true
  | _ => false

/-- Trees of some depth: no list is an item of another, and records have distinct names. -/
inductive Regular : Nat -> Tree -> Prop where
  | flag (n : Nat) (b : Bool) : Regular n (.flag b)
  | text (n : Nat) (s : String) : Regular n (.text s)
  | list {n : Nat} {items : List Tree} (flat : ∀ t ∈ items, t.isList = false)
      (regular : ∀ t ∈ items, Regular n t) : Regular (n + 1) (.list items)
  | record {n : Nat} {fields : List (String × Tree)} (ne_nil : fields ≠ [])
      (nodup : (fields.map Prod.fst).Nodup) (names : ∀ f ∈ fields, FieldName f.1)
      (regular : ∀ f ∈ fields, Regular n f.2) : Regular (n + 1) (.record fields)

/-- Whether the indentations of a tree of some depth leave room on a line. -/
def Fits (indent depth : Nat) : Prop :=
  indent + 2 * depth + 2 < Written.width

theorem Fits.of_succ {indent depth : Nat} (h : Fits indent (depth + 1)) : Fits indent depth := by
  unfold Fits at h ⊢
  omega

theorem Fits.deeper {indent depth : Nat} (h : Fits indent (depth + 1)) :
    Fits (indent + 2) depth := by
  unfold Fits at h ⊢
  omega

/-- Behind the colon of a field, the text of a tree is cut into its tokens, up to the next line. -/
def LexedBehindColon (n : Nat) (t : Tree) : Prop :=
  ∀ {indent column k : Nat} {c : Cursor} {ts : List Token} {outer : List Int} {tail : List Char},
    Fits indent n -> indent ≤ c.column -> k ≤ indent -> LineStart tail ->
    c.rest = fieldText indent column t ++ (newLine k ++ tail) ->
    ∃ l', Leads readAll size (standing c false ts indent outer) l' ∧
      l'.ComesTo true (ts ++ t.tokens) indent outer k tail

/-- Behind the dash of an item, the text of a tree is cut into its tokens, up to the next line. -/
def LexedBehindDash (n : Nat) (t : Tree) : Prop :=
  ∀ {indent k : Nat} {c : Cursor} {ts : List Token} {outer : List Int} {tail : List Char},
    Fits indent n -> c.column = indent + 1 -> k ≤ indent -> LineStart tail ->
    c.rest = itemText indent t ++ (newLine k ++ tail) ->
    ∃ l', Leads readAll size (standing c true ts indent outer) l' ∧
      l'.ComesTo true (ts ++ t.tokens) indent outer k tail

variable {n indent column k : Nat} {c : Cursor} {allowed : Bool} {ts : List Token} {b : Int}
  {outer : List Int} {tail : List Char} {l : Lexer}

/-! ## Texts and Booleans -/

theorem text_lexed (s : String) (hroom : Fits indent n) (hcolumn : indent ≤ c.column)
    (hk : k ≤ indent) (htail : LineStart tail)
    (hc : c.rest = ' ' :: (Written.scalar (indent + 2) column s ++ (newLine k ++ tail))) :
    ∃ l', Leads readAll size (standing c allowed ts indent outer) l' ∧
      l'.ComesTo true (ts ++ (Tree.text s).tokens) indent outer k tail := by
  unfold Fits at hroom
  exact Lexer.text_comesTo s (by omega) (by omega) (by omega) (by omega) (by omega) htail hc

/-- The words for the Booleans are plain scalars. -/
theorem flag_lexed (v : Bool) (hcolumn : indent ≤ c.column) (hk : k ≤ indent)
    (htail : LineStart tail)
    (hc : c.rest = ' ' :: ((if v then "true" else "false").toList ++ (newLine k ++ tail))) :
    ∃ l', Leads readAll size (standing c allowed ts indent outer) l' ∧
      l'.ComesTo true (ts ++ (Tree.flag v).tokens) indent outer k tail := by
  have hplain : PlainText (if v then "true" else "false").toList :=
    plainText_of_allowsPlain (by cases v <;> decide)
  have hfolded : Written.folded (indent + 1) false true 0
      (Written.runsOf (if v then "true" else "false").toList) =
      (if v then "true" else "false").toList := by
    cases v <;> rfl
  have htext : String.ofList (if v then "true" else "false").toList = if v then "true" else "false" :=
    String.ofList_toList
  rw [← hfolded] at hc
  have hlexed : ∃ l', Leads readAll size (standing c allowed ts indent outer) l' ∧ _ :=
    Lexer.plain_comesTo hplain (by omega) (by omega) (by omega) htail hc
  rwa [htext] at hlexed

/-! ## Empty lists -/

/-- The lexer between the brackets of an empty list. -/
def betweenBrackets (c : Cursor) (ts : List Token) (b : Int) (outer : List Int) : Lexer :=
  { standing c true (ts ++ [.flowSequenceStart]) b outer with flow := 1 }

theorem readToken_open (hc : c.rest = '[' :: tail) :
    Lexer.readToken '[' (standing c false ts b outer) =
      .ok (betweenBrackets c.next ts b outer) := by
  simp [Lexer.readToken, Cursor.seesMark, hc, Lexer.flowStart, Lexer.notePending, standing,
    betweenBrackets, Lexer.push, Lexer.moveTo, bind, Except.bind, pure, Except.pure]

theorem readToken_close (hc : c.rest = ']' :: tail) :
    Lexer.readToken ']' (betweenBrackets c ts b outer) =
      .ok (standing c.next false (ts ++ [.flowSequenceStart, .flowSequenceEnd]) b outer) := by
  simp [Lexer.readToken, Cursor.seesMark, hc, Lexer.flowEnd, Lexer.dropPending, standing,
    betweenBrackets, Lexer.push, Lexer.moveTo, bind, Except.bind, pure, Except.pure]

theorem empty_lexed (hcolumn : indent ≤ c.column) (htail : LineStart tail)
    (hc : c.rest = ' ' :: '[' :: ']' :: (newLine k ++ tail)) :
    ∃ l', Leads readAll size (standing c false ts indent outer) l' ∧
      l'.ComesTo true (ts ++ (Tree.list []).tokens) indent outer k tail := by
  have hsheer {ch : Char} (rest : List Char) (hgap : isGap ch = false) (hne : ch ≠ '#') :
      Lexer.Sheer (ch :: rest) := ⟨Text.stops_cons.2 hgap, Text.stops_cons.2 (beq_false_of_ne hne)⟩
  have hcomes : (standing c false ts indent outer).ComesTo false ts indent outer _ _ :=
    Lexer.standing_space (hsheer _ (by decide) (by decide)) hc
  obtain ⟨_, hopen, c', hc', rfl⟩ := hcomes.leads (by omega)
    (Q := fun l' => ∃ c' : Cursor, c'.rest = ']' :: (newLine k ++ tail) ∧
      l' = betweenBrackets c' ts indent outer) (by
    intro c' hc' _
    have hnext := Cursor.rest_next_cons hc'
    exact ⟨_, readToken_open hc', by simp [size, betweenBrackets, standing, hnext], _, hnext, rfl⟩)
  have hsettle : (betweenBrackets c' ts indent outer).settle =
      .ok (betweenBrackets c' ts indent outer) :=
    @Lexer.settle_spaces (betweenBrackets c' ts indent outer) _ 0
      (hsheer _ (by decide) (by decide)) hc' (by simp [Lexer.Outdated, betweenBrackets, standing])
  have hnext := Cursor.rest_next_cons hc'
  have hclose : Leads readAll size (betweenBrackets c' ts indent outer)
      (standing c'.next false (ts ++ [.flowSequenceStart, .flowSequenceEnd]) indent outer) :=
    Lexer.leads_of_readToken hsettle rfl hc' (readToken_close hc')
      (by simp [size, betweenBrackets, standing, hc', hnext])
  refine ⟨_, hopen.trans hclose, ?_⟩
  rw [tokens]
  exact Lexer.standing_newLine (Lexer.sheer_of_lineStart htail) hnext

/-! ## Records -/

theorem fieldText_list (indent column : Nat) (t : Tree) (rest : List Tree) :
    fieldText indent column (.list (t :: rest)) = itemsText indent (t :: rest) := rfl

theorem fieldText_record {fields : List (String × Tree)} (hne : fields ≠ [])
    (indent column : Nat) :
    fieldText indent column (.record fields) =
      newLine (indent + 2) ++ fieldsText (indent + 2) fields := by
  obtain ⟨f, rest, rfl⟩ := List.exists_cons_of_ne_nil hne
  rfl

theorem itemText_record {fields : List (String × Tree)} (hne : fields ≠ []) (indent : Nat) :
    itemText indent (.record fields) = ' ' :: fieldsText (indent + 2) fields := by
  obtain ⟨f, rest, rfl⟩ := List.exists_cons_of_ne_nil hne
  rfl

theorem exists_fieldText_head (indent column : Nat) (t : Tree) (x : List Char) :
    ∃ d more, fieldText indent column t ++ x = d :: more ∧ isGap d = true := by
  cases t with
  | flag v => exact ⟨' ', _, by rw [fieldText]; rfl, rfl⟩
  | text s => exact ⟨' ', _, by rw [fieldText]; rfl, rfl⟩
  | list items =>
      cases items with
      | nil => exact ⟨' ', _, by rw [fieldText]; rfl, rfl⟩
      | cons t rest => exact ⟨'\n', _, by rw [fieldText_list, itemsText]; rfl, rfl⟩
  | record fields =>
      cases fields with
      | nil => exact ⟨' ', _, by rw [fieldText]; rfl, rfl⟩
      | cons f rest => exact ⟨'\n', _, by rw [fieldText_record (by simp)]; rfl, rfl⟩

theorem fieldsText_cons (indent : Nat) (name : String) (t : Tree) (f : String × Tree)
    (rest : List (String × Tree)) :
    fieldsText indent ((name, t) :: f :: rest) =
      name.toList ++ ':' :: fieldText indent (indent + name.length + 1) t ++ newLine indent ++
        fieldsText indent (f :: rest) := by
  rw [fieldsText]
  simp

theorem lineStart_fieldsText {fields : List (String × Tree)} (hne : fields ≠ [])
    (hnames : ∀ f ∈ fields, FieldName f.1) (indent : Nat) (x : List Char) :
    LineStart (fieldsText indent fields ++ x) := by
  obtain ⟨⟨name, t⟩, rest, rfl⟩ := List.exists_cons_of_ne_nil hne
  have hname : FieldName name := hnames (name, t) (by simp)
  obtain ⟨ch, more, hcons⟩ := List.exists_cons_of_ne_nil hname.ne_nil
  have hch : isFieldChar ch = true := hname.chars ch (by simp [hcons])
  cases rest with
  | nil =>
      rw [fieldsText, hcons]
      exact .name hch
  | cons f rest =>
      rw [fieldsText_cons, hcons]
      exact .name hch

/-- One field of a record, which opens the block of the record if it is the first one. -/
theorem field_lexed {name : String} {t : Tree} (hname : FieldName name)
    (ht : LexedBehindColon n t) (hroom : Fits indent n) (hb : b ≤ indent) (hk : k ≤ indent)
    (htail : LineStart tail)
    (h : l.ComesTo true ts b outer indent
      (name.toList ++ ':' :: (fieldText indent column t ++ (newLine k ++ tail)))) :
    ∃ l', Leads readAll size l l' ∧
      l'.ComesTo true (ts ++ keyTokens b indent name ++ t.tokens) indent
        (blocksAround b indent outer) k tail := by
  obtain ⟨d, more, heq, hd⟩ := exists_fieldText_head indent column t (newLine k ++ tail)
  rw [heq] at h
  obtain ⟨c, hc, hcolumn, hkey⟩ := h.key hname hd hb
  obtain ⟨l', hvalue, hcomes⟩ := ht hroom (by omega) hk htail (hc.trans heq.symm)
  exact ⟨l', hkey.trans hvalue, hcomes⟩

/-- The fields of a record, at the column where its block is or where it opens one. -/
theorem fields_lexed {fields : List (String × Tree)} (hne : fields ≠ [])
    (hnames : ∀ f ∈ fields, FieldName f.1) (hfields : ∀ f ∈ fields, LexedBehindColon n f.2)
    (hroom : Fits indent n) (hb : b ≤ indent) (hk : k ≤ indent) (htail : LineStart tail)
    (h : l.ComesTo true ts b outer indent (fieldsText indent fields ++ (newLine k ++ tail))) :
    ∃ l', Leads readAll size l l' ∧
      l'.ComesTo true
        (ts ++ ((if b < indent then [.blockMappingStart] else []) ++ fieldsTokens fields))
        indent (blocksAround b indent outer) k tail := by
  induction fields generalizing l ts b outer with
  | nil => exact absurd rfl hne
  | cons f rest ih =>
      obtain ⟨name, t⟩ := f
      obtain ⟨hname, hnames'⟩ := List.forall_mem_cons.1 hnames
      obtain ⟨ht, hfields'⟩ := List.forall_mem_cons.1 hfields
      cases rest with
      | nil =>
          rw [fieldsText, List.append_assoc, List.cons_append] at h
          obtain ⟨l', hfield, hcomes⟩ := field_lexed hname ht hroom hb hk htail h
          refine ⟨l', hfield, ?_⟩
          simpa [keyTokens, fieldsTokens] using hcomes
      | cons f rest =>
          have hstart := lineStart_fieldsText (List.cons_ne_nil f rest) hnames' indent
            (newLine k ++ tail)
          rw [fieldsText_cons] at h
          simp only [List.append_assoc, List.cons_append] at h
          obtain ⟨l₁, hfield, hcomes⟩ := field_lexed hname ht hroom hb (Nat.le_refl indent) hstart h
          obtain ⟨l', hrest, hcomes'⟩ := ih (List.cons_ne_nil f rest) hnames' hfields'
            (Int.le_refl _) hcomes
          refine ⟨l', hfield.trans hrest, ?_⟩
          simpa [keyTokens, fieldsTokens, blocksAround] using hcomes'

/-- A record that is deeper than its surroundings. -/
theorem record_lexed {fields : List (String × Tree)} (hne : fields ≠ [])
    (hnames : ∀ f ∈ fields, FieldName f.1) (hfields : ∀ f ∈ fields, LexedBehindColon n f.2)
    (hroom : Fits indent n) (hb : b < indent) (hk : k ≤ b) (htail : LineStart tail)
    (h : l.ComesTo true ts b outer indent (fieldsText indent fields ++ (newLine k ++ tail))) :
    ∃ l', Leads readAll size l l' ∧
      l'.ComesTo true (ts ++ (Tree.record fields).tokens) b outer k tail := by
  obtain ⟨l', hlexed, hcomes⟩ := fields_lexed hne hnames hfields hroom (by omega) (by omega) htail h
  rw [if_pos hb, blocksAround, if_pos hb] at hcomes
  refine ⟨l', hlexed, ?_⟩
  simpa [tokens] using hcomes.close (by omega)

/-! ## Lists -/

/-- The dash of an item at the column of the block. -/
theorem entry_lexed {rest : List Char}
    (h : l.ComesTo true ts indent outer indent ('-' :: ' ' :: rest)) :
    ∃ c : Cursor, c.rest = ' ' :: rest ∧ c.column = indent + 1 ∧
      Leads readAll size l (standing c true (ts ++ [.entry]) indent outer) := by
  obtain ⟨_, hleads, c, hc, hcolumn, rfl⟩ := h.leads (Int.le_refl _)
    (Q := fun l' => ∃ c : Cursor, c.rest = ' ' :: rest ∧ c.column = indent + 1 ∧
      l' = standing c true (ts ++ [.entry]) indent outer) (by
    intro c hc hcolumn
    have hnext := Cursor.rest_next_cons hc
    have hread : Lexer.readToken '-' (standing c true ts indent outer) =
        .ok (standing c.next true (ts ++ [.entry]) indent outer) := by
      simp [Lexer.readToken, Cursor.seesMark, Cursor.endsWordAt, Cursor.at?, hc, isSpaceOrTab,
        Lexer.entry, standing, Lexer.openBlock, Lexer.openBlock?, hcolumn, Lexer.dropPending,
        Lexer.push, Lexer.allowKey, Lexer.moveTo, Functor.map, Except.map]
    refine ⟨_, hread, ?_, c.next, hnext, ?_, rfl⟩
    · simp [size, standing, hnext]
    · simp [Cursor.next, hc, hcolumn, isBreak, isByteOrderMark])
  exact ⟨c, hc, hcolumn, hleads⟩

theorem exists_itemText_eq_cons (indent : Nat) (t : Tree) :
    ∃ more, itemText indent t = ' ' :: more := by
  cases t with
  | flag v => exact ⟨_, by rw [itemText]⟩
  | text s => exact ⟨_, by rw [itemText]⟩
  | list items =>
      cases items with
      | nil => exact ⟨_, by rw [itemText]; rfl⟩
      | cons t rest => exact ⟨_, rfl⟩
  | record fields =>
      cases fields with
      | nil => exact ⟨_, by rw [itemText]; rfl⟩
      | cons f rest => exact ⟨_, rfl⟩

/-- The items of a list, from the dash of the first one on. -/
theorem items_lexed {t : Tree} {rest : List Tree}
    (hitems : ∀ t' ∈ t :: rest, LexedBehindDash n t') (hroom : Fits indent n) (hk : k ≤ indent)
    (htail : LineStart tail)
    (h : l.ComesTo true ts indent outer indent
      ('-' :: (itemText indent t ++ (itemsText indent rest ++ (newLine k ++ tail))))) :
    ∃ l', Leads readAll size l l' ∧
      l'.ComesTo true (ts ++ itemsTokens (t :: rest)) indent outer k tail := by
  have hblank (t : Tree) (x : List Char) : ∃ more, itemText indent t ++ x = ' ' :: more := by
    obtain ⟨more, heq⟩ := exists_itemText_eq_cons indent t
    exact ⟨more ++ x, by rw [heq, List.cons_append]⟩
  induction rest generalizing t l ts with
  | nil =>
      have ht : LexedBehindDash n t := hitems t (by simp)
      rw [itemsText, List.nil_append] at h
      obtain ⟨more, heq⟩ := hblank t (newLine k ++ tail)
      rw [heq] at h
      obtain ⟨c, hc, hcolumn, hentry⟩ := entry_lexed h
      obtain ⟨l', hitem, hcomes⟩ := ht hroom hcolumn hk htail (hc.trans heq.symm)
      refine ⟨l', hentry.trans hitem, ?_⟩
      simpa [itemsTokens] using hcomes
  | cons t' rest ih =>
      obtain ⟨ht, hitems'⟩ := List.forall_mem_cons.1 hitems
      rw [itemsText] at h
      simp only [List.append_assoc, List.cons_append] at h
      obtain ⟨more, heq⟩ := hblank t (newLine indent ++
        '-' :: (itemText indent t' ++ (itemsText indent rest ++ (newLine k ++ tail))))
      rw [heq] at h
      obtain ⟨c, hc, hcolumn, hentry⟩ := entry_lexed h
      have hstart : LineStart
          ('-' :: (itemText indent t' ++ (itemsText indent rest ++ (newLine k ++ tail)))) := by
        obtain ⟨more', heq'⟩ := hblank t' (itemsText indent rest ++ (newLine k ++ tail))
        rw [heq']
        exact .item
      obtain ⟨l₁, hitem, hcomes⟩ := ht hroom hcolumn (Nat.le_refl indent) hstart
        (hc.trans heq.symm)
      obtain ⟨l', hrest, hcomes'⟩ := ih hitems' hcomes
      refine ⟨l', (hentry.trans hitem).trans hrest, ?_⟩
      simpa [itemsTokens] using hcomes'

/-! ## Trees -/

/-- Regular trees are cut into their tokens, behind a colon and, unless they are lists, a dash. -/
theorem regular_lexed {t : Tree} (h : Regular n t) :
    LexedBehindColon n t ∧ (t.isList = false -> LexedBehindDash n t) := by
  induction h with
  | flag n v =>
      refine ⟨?_, fun _ => ?_⟩
      · intro indent column k c ts outer tail hroom hcolumn hk htail hc
        rw [fieldText, List.cons_append] at hc
        exact flag_lexed v hcolumn hk htail hc
      · intro indent k c ts outer tail hroom hcolumn hk htail hc
        rw [itemText, List.cons_append] at hc
        exact flag_lexed v (by omega) hk htail hc
  | text n s =>
      refine ⟨?_, fun _ => ?_⟩
      · intro indent column k c ts outer tail hroom hcolumn hk htail hc
        rw [fieldText, List.cons_append] at hc
        exact text_lexed s hroom hcolumn hk htail hc
      · intro indent k c ts outer tail hroom hcolumn hk htail hc
        rw [itemText, List.cons_append] at hc
        exact text_lexed s hroom (by omega) hk htail hc
  | @list n items hflat _ ih =>
      refine ⟨?_, fun h => by cases h⟩
      intro indent column k c ts outer tail hroom hcolumn hk htail hc
      cases items with
      | nil =>
          rw [fieldText] at hc
          exact empty_lexed hcolumn htail hc
      | cons t rest =>
          have hitems : ∀ t' ∈ t :: rest, LexedBehindDash n t' :=
            fun t' h => (ih t' h).2 (hflat t' h)
          rw [fieldText_list, itemsText] at hc
          simp only [List.append_assoc, List.cons_append] at hc
          have hstart : LineStart
              ('-' :: (itemText indent t ++ (itemsText indent rest ++ (newLine k ++ tail)))) := by
            obtain ⟨more, heq⟩ := exists_itemText_eq_cons indent t
            rw [heq]
            exact .item
          have hcomes : (standing c false ts indent outer).ComesTo true ts indent outer indent _ :=
            Lexer.standing_newLine (Lexer.sheer_of_lineStart hstart) hc
          rw [tokens]
          exact items_lexed hitems hroom.of_succ hk htail hcomes
  | @record n fields hne _ hnames _ ih =>
      have hfields : ∀ f ∈ fields, LexedBehindColon n f.2 := fun f h => (ih f h).1
      have hstart (indent : Nat) (x : List Char) :=
        Lexer.sheer_of_lineStart (lineStart_fieldsText hne hnames indent x)
      refine ⟨?_, fun _ => ?_⟩
      · intro indent column k c ts outer tail hroom hcolumn hk htail hc
        rw [fieldText_record hne, List.append_assoc] at hc
        have hcomes : (standing c false ts indent outer).ComesTo true ts indent outer _ _ :=
          Lexer.standing_newLine (hstart _ _) hc
        exact record_lexed hne hnames hfields hroom.deeper (by omega) (by omega) htail hcomes
      · intro indent k c ts outer tail hroom hcolumn hk htail hc
        rw [itemText_record hne, List.cons_append] at hc
        have hcomes : (standing c true ts indent outer).ComesTo true ts indent outer _ _ :=
          Lexer.standing_space (hstart _ _) hc
        rw [hcolumn] at hcomes
        exact record_lexed hne hnames hfields hroom.deeper (by omega) (by omega) htail hcomes

end Tree

end Clearance.Yaml
