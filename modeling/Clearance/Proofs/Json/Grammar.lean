import Clearance.Proofs.Json.Written

/-!
# The grammar of JSON

The standard grammar of JSON texts, rule by rule and without a reader.  What is written in ASCII is
a text of the grammar exactly if its numbers are finite: the grammar has no words for the others.
-/

namespace Clearance.Json

open Decimal (isDigit isHexDigit)

/-! ## Tokens -/

namespace Grammar

/-- A structural character with blanks around it. -/
inductive IsMark (mark : Char) : List Char -> Prop where
  | mk {before after : List Char} (before_blank : ∀ c ∈ before, isJsonBlank c = true)
      (after_blank : ∀ c ∈ after, isJsonBlank c = true) : IsMark mark (before ++ mark :: after)

/-- A character between quotes: as it is, by a letter, or by its code. -/
inductive IsChar : List Char -> Prop where
  | plain {c : Char} (printed : 0x20 ≤ c.toNat) (quote : c ≠ '"') (backslash : c ≠ '\\') :
      IsChar [c]
  | letter {c : Char} (known : c ∈ ['"', '\\', '/', 'b', 'f', 'n', 'r', 't']) : IsChar ['\\', c]
  | code {digits : List Char} (length : digits.length = 4)
      (hex : ∀ d ∈ digits, isHexDigit d = true) : IsChar ('\\' :: 'u' :: digits)

inductive IsChars : List Char -> Prop where
  | nil : IsChars []
  | cons {c rest : List Char} (first : IsChar c) (others : IsChars rest) : IsChars (c ++ rest)

inductive IsString : List Char -> Prop where
  | mk {cs : List Char} (chars : IsChars cs) : IsString ('"' :: cs ++ ['"'])

/-- A whole part: zero, or digits of which the first is not zero. -/
inductive IsWhole : List Char -> Prop where
  | zero : IsWhole ['0']
  | digits {d : Char} {rest : List Char} (first : isDigit d = true) (lead : d ≠ '0')
      (others : ∀ c ∈ rest, isDigit c = true) : IsWhole (d :: rest)

inductive IsFraction : List Char -> Prop where
  | none : IsFraction []
  | digits {ds : List Char} (some : ds ≠ []) (all : ∀ c ∈ ds, isDigit c = true) :
      IsFraction ('.' :: ds)

inductive IsExponent : List Char -> Prop where
  | none : IsExponent []
  | digits {e : Char} {sign ds : List Char} (letter : e = 'e' ∨ e = 'E')
      (signed : sign = [] ∨ sign = ['+'] ∨ sign = ['-']) (some : ds ≠ [])
      (all : ∀ c ∈ ds, isDigit c = true) : IsExponent (e :: (sign ++ ds))

inductive IsNumber : List Char -> Prop where
  | mk {minus whole fraction exponent : List Char} (signed : minus = [] ∨ minus = ['-'])
      (isWhole : IsWhole whole) (isFraction : IsFraction fraction)
      (isExponent : IsExponent exponent) : IsNumber (minus ++ whole ++ fraction ++ exponent)

/-! ## Values -/

mutual

inductive IsValue : List Char -> Prop where
  | word {cs : List Char} (known : cs ∈ ["null".toList, "true".toList, "false".toList]) : IsValue cs
  | number {cs : List Char} (isNumber : IsNumber cs) : IsValue cs
  | string {cs : List Char} (isString : IsString cs) : IsValue cs
  | emptyArray {left right : List Char} (opens : IsMark '[' left) (closes : IsMark ']' right) :
      IsValue (left ++ right)
  | array {left items right : List Char} (opens : IsMark '[' left) (isItems : IsItems items)
      (closes : IsMark ']' right) : IsValue (left ++ (items ++ right))
  | emptyObject {left right : List Char} (opens : IsMark '\x7b' left)
      (closes : IsMark '\x7d' right) : IsValue (left ++ right)
  | object {left members right : List Char} (opens : IsMark '\x7b' left)
      (isMembers : IsMembers members) (closes : IsMark '\x7d' right) :
      IsValue (left ++ (members ++ right))

inductive IsItems : List Char -> Prop where
  | last {item : List Char} (isValue : IsValue item) : IsItems item
  | more {item comma rest : List Char} (isValue : IsValue item) (separates : IsMark ',' comma)
      (others : IsItems rest) : IsItems (item ++ (comma ++ rest))

inductive IsMember : List Char -> Prop where
  | mk {name colon item : List Char} (isString : IsString name) (separates : IsMark ':' colon)
      (isValue : IsValue item) : IsMember (name ++ colon ++ item)

inductive IsMembers : List Char -> Prop where
  | last {member : List Char} (isMember : IsMember member) : IsMembers member
  | more {member comma rest : List Char} (isMember : IsMember member) (separates : IsMark ',' comma)
      (others : IsMembers rest) : IsMembers (member ++ (comma ++ rest))

end

/-- A JSON text: a value with blanks around it. -/
inductive IsText : List Char -> Prop where
  | mk {before value after : List Char} (before_blank : ∀ c ∈ before, isJsonBlank c = true)
      (isValue : IsValue value) (after_blank : ∀ c ∈ after, isJsonBlank c = true) :
      IsText (before ++ (value ++ after))

end Grammar

open Grammar

/-! ## What is written keeps to the grammar -/

theorem isHexDigit_of_readDigits {acc n : Nat} {cs : List Char}
    (h : Decimal.readDigits 16 acc cs = some n) : ∀ c ∈ cs, isHexDigit c = true := by
  induction cs generalizing acc with
  | nil => simp
  | cons c rest ih =>
      rw [Decimal.readDigits] at h
      cases hvalue : Decimal.digitValue? 16 c with
      | none => simp [hvalue] at h
      | some d =>
          rw [hvalue] at h
          exact List.forall_mem_cons.2 ⟨by rw [isHexDigit, hvalue]; rfl, ih h⟩

theorem isChar_unicodeEscape {code : Nat} (h : code < 0x10000) : IsChar (unicodeEscape code) := by
  have hread := Text.readNat?_hexPadded 4 code
  have hlength := length_hexFour h
  rw [Decimal.readNat?] at hread
  split at hread
  · cases hread
  · exact .code hlength (isHexDigit_of_readDigits hread)

theorem isChars_writtenChar (asciiOnly : Bool) (ch : Char) {rest : List Char}
    (hrest : IsChars rest) : IsChars (writtenChar asciiOnly ch ++ rest) := by
  obtain ⟨letter, hletter, h⟩ | ⟨hplain, hcode, h⟩ | ⟨hcode, h⟩ | ⟨hcode, h⟩ :=
    writtenChar_cases asciiOnly ch
  · rw [h]
    refine .cons (.letter ?_) hrest
    have hread := shortUnescape?_of_shortEscape? hletter
    unfold shortUnescape? at hread
    simp only [List.mem_cons, List.not_mem_nil, or_false]
    grind
  · rw [h]
    refine .cons (.plain hcode ?_ ?_) hrest
    · rintro rfl
      cases hplain
    · rintro rfl
      cases hplain
  · rw [h]
    exact .cons (isChar_unicodeEscape hcode) hrest
  · rw [h, List.append_assoc]
    obtain ⟨hhigh, hlow, -⟩ := surrogates_spec hcode
    exact .cons (isChar_unicodeEscape (lt_of_isHighSurrogate hhigh))
      (.cons (isChar_unicodeEscape (lt_of_isLowSurrogate hlow)) hrest)

theorem isString_writtenString (asciiOnly : Bool) (s : String) :
    IsString (writtenString asciiOnly s) := by
  refine .mk ?_
  induction s.toList with
  | nil => exact .nil
  | cons ch rest ih =>
      rw [List.flatMap_cons]
      exact isChars_writtenChar asciiOnly ch ih

theorem isNumber_chars {t : NumberText} (ht : t.Regular) : IsNumber t.chars := by
  refine .mk ?_ ?_ ?_ ?_
  · cases t.negative <;> simp
  · obtain ⟨d, rest, hwhole⟩ := List.exists_cons_of_ne_nil ht.whole_ne_nil
    obtain hzero | hlead := ht.whole_lead
    · rw [hzero]
      exact .zero
    · have hdigits := ht.whole_digits
      rw [hwhole] at hlead hdigits ⊢
      exact .digits (hdigits d List.mem_cons_self) (by simpa using hlead)
        fun c hc => hdigits c (List.mem_cons_of_mem _ hc)
  · by_cases hnone : t.fraction = []
    · rw [hnone]
      exact .none
    · rw [if_neg (by simpa using hnone)]
      exact .digits hnone ht.fraction_digits
  · obtain hnone | ⟨sign, digits, hexponent, hsign, hne, hdigits⟩ := ht.exponent_digits
    · rw [hnone]
      exact .none
    · rw [hexponent, if_neg (by simp [hne])]
      exact .digits (.inl rfl) hsign hne hdigits

theorem isNumber_intText (n : Int) : IsNumber (Decimal.intText n).toList := by
  rw [intText_chars]
  exact isNumber_chars (regular_int n)

theorem isNumber_layoutText (layout : Decimal.Layout) {x : Binary64} (hx : x.isFinite = true) :
    IsNumber (layout.text x).toList := by
  obtain ⟨mantissa, exponent, hmagnitude⟩ := Binary64.exists_magnitude_of_isFinite hx
  obtain ⟨t, ht⟩ := exists_numberText layout hmagnitude
  rw [toList_text hmagnitude, ← ht.chars]
  exact isNumber_chars ht.regular

/-! ## Documents -/

theorem writeItems_eq_map (style : Style) (depth : Nat) (items : List Json) :
    writeItems style depth items = items.map (write style depth) := by
  induction items with
  | nil => rfl
  | cons item rest ih => rw [writeItems, ih, List.map_cons]

/-- A name with its item. -/
def writtenMember (style : Style) (depth : Nat) (member : String × Json) : List Char :=
  writtenString style.asciiOnly member.1 ++ style.colon ++ write style depth member.2

theorem writeMembers_eq_map (style : Style) (depth : Nat) (members : List (String × Json)) :
    writeMembers style depth members = members.map (writtenMember style depth) := by
  induction members with
  | nil => rfl
  | cons member rest ih =>
      rw [writeMembers, ih]
      rfl

theorem isMark_left {mark : Char} {blanks : List Char} (h : ∀ b ∈ blanks, isJsonBlank b = true) :
    IsMark mark (mark :: blanks) :=
  @IsMark.mk mark [] blanks (by simp) h

theorem isMark_right {mark : Char} {blanks : List Char} (h : ∀ b ∈ blanks, isJsonBlank b = true) :
    IsMark mark (blanks ++ [mark]) :=
  .mk h (by simp)

section

variable {style : Style} {depth : Nat} {x : List Char} {rest : List (List Char)}

/-- What holds of one piece, and of a piece in front of others, holds of pieces that are joined. -/
theorem joined_of_pieces {Piece Joined : List Char -> Prop} (last : ∀ {y}, Piece y -> Joined y)
    (more : ∀ {y comma others}, Piece y -> IsMark ',' comma -> Joined others ->
      Joined (y ++ (comma ++ others)))
    (h : ∀ y ∈ x :: rest, Piece y) : Joined (style.joined depth (x :: rest)) := by
  obtain ⟨blanks, hblanks, hjoined⟩ := exists_joined_cons_cons style depth
  induction rest generalizing x with
  | nil =>
      rw [joined_singleton]
      exact last (h x List.mem_cons_self)
  | cons y rest ih =>
      obtain ⟨hx, hrest⟩ := List.forall_mem_cons.1 h
      rw [hjoined]
      exact more hx (isMark_left hblanks) (ih hrest)

theorem isValue_array {xs : List (List Char)} (h : ∀ x ∈ xs, IsValue x) :
    IsValue (style.bracketed depth '[' ']' xs) := by
  cases xs with
  | nil =>
      change IsValue (['['] ++ [']'])
      exact .emptyArray (isMark_left (List.forall_mem_nil _)) (isMark_left (List.forall_mem_nil _))
  | cons x rest =>
      rw [bracketed_cons]
      exact .array (isMark_left (isJsonBlank_lineStart style _)) (joined_of_pieces .last .more h)
        (isMark_right (isJsonBlank_lineStart style _))

theorem isValue_object {xs : List (List Char)} (h : ∀ x ∈ xs, IsMember x) :
    IsValue (style.bracketed depth '\x7b' '\x7d' xs) := by
  cases xs with
  | nil =>
      change IsValue (['\x7b'] ++ ['\x7d'])
      exact .emptyObject (isMark_left (List.forall_mem_nil _)) (isMark_left (List.forall_mem_nil _))
  | cons x rest =>
      rw [bracketed_cons]
      exact .object (isMark_left (isJsonBlank_lineStart style _)) (joined_of_pieces .last .more h)
        (isMark_right (isJsonBlank_lineStart style _))

end

/-- A document with finite numbers is written as a value. -/
theorem isValue_write {style : Style} (hstyle : style.Regular) (j : Json) (hj : j.isFinite = true) :
    ∀ depth, IsValue (write style depth j) := by
  induction j using nestedInduction with
  | null => exact fun _ => .word (by simp [write])
  | bool b => cases b <;> exact fun _ => .word (by simp [write])
  | int n =>
      intro depth
      rw [write]
      exact .number (isNumber_intText n)
  | real x =>
      obtain ⟨layout, hlayout⟩ := hstyle x hj
      intro depth
      rw [write, hlayout]
      exact .number (isNumber_layoutText layout hj)
  | string s =>
      intro depth
      rw [write]
      exact .string (isString_writtenString _ s)
  | array items ih =>
      intro depth
      rw [write, writeItems_eq_map]
      refine isValue_array (List.forall_mem_map.2 fun item hitem => ?_)
      exact ih item hitem (areFinite_iff.1 hj item hitem) (depth + 1)
  | object members ih =>
      intro depth
      rw [write, writeMembers_eq_map]
      refine isValue_object (List.forall_mem_map.2 fun member hmember => ?_)
      obtain ⟨blanks, hcolon, hblanks⟩ := exists_colon style
      have hitem := ih member hmember (haveFinite_iff.1 hj member hmember) (depth + 1)
      exact .mk (isString_writtenString _ _) (hcolon ▸ isMark_left hblanks) hitem

/-! ## Words that are not in the grammar -/

/-- Where a character of a text stands: outside its strings, inside one, or behind a backslash there. -/
inductive Place where
  | outside
  | inside
  | escaped
  /-- Behind a capital letter that only the words for numbers that are not finite begin with. -/
  | spoiled

/-- The place behind a character. -/
def Place.after : Place -> Char -> Place
  | .outside, c => if c = '"' then .inside else if c = 'N' || c = 'I' then .spoiled else .outside
  | .inside, c => if c = '"' then .outside else if c = '\\' then .escaped else .inside
  | .escaped, _ => .inside
  | .spoiled, _ => .spoiled

/-- The place behind some characters. -/
def scan (p : Place) (cs : List Char) : Place :=
  cs.foldl Place.after p

theorem scan_append (p : Place) (xs ys : List Char) : scan p (xs ++ ys) = scan (scan p xs) ys :=
  List.foldl_append

theorem scan_cons (p : Place) (c : Char) (rest : List Char) :
    scan p (c :: rest) = scan (p.after c) rest :=
  rfl

theorem scan_spoiled (cs : List Char) : scan .spoiled cs = .spoiled := by
  induction cs with
  | nil => rfl
  | cons c rest ih => exact ih

/-- Outside strings a text stays sound or is spoiled. -/
def Place.ofSound (sound : Bool) : Place :=
  if sound then .outside else .spoiled

/-- A character that neither begins a string nor spoils a text. -/
def isQuiet (c : Char) : Bool :=
  c != '"' && c != 'N' && c != 'I'

theorem scan_ofSound_of_isQuiet {cs : List Char} (h : ∀ c ∈ cs, isQuiet c = true) (sound : Bool) :
    scan (.ofSound sound) cs = .ofSound sound := by
  cases sound with
  | false => exact scan_spoiled cs
  | true =>
      induction cs with
      | nil => rfl
      | cons c rest ih =>
          obtain ⟨hc, hrest⟩ := List.forall_mem_cons.1 h
          simp only [isQuiet, Bool.and_eq_true, bne_iff_ne] at hc
          have hplace : (Place.ofSound true).after c = .ofSound true := by
            simp [Place.ofSound, Place.after, hc]
          rw [scan_cons, hplace]
          exact ih hrest

theorem scan_outside_of_isQuiet {cs : List Char} (h : ∀ c ∈ cs, isQuiet c = true) :
    scan .outside cs = .outside :=
  scan_ofSound_of_isQuiet h true

/-! ### Texts of the grammar -/

theorem isQuiet_of_isDigit {c : Char} (h : isDigit c = true) : isQuiet c = true := by
  simp only [isQuiet, Bool.and_eq_true, bne_iff_ne]
  exact ⟨⟨ne_of_isDigit h (by decide), ne_of_isDigit h (by decide)⟩, ne_of_isDigit h (by decide)⟩

theorem isQuiet_of_isJsonBlank {c : Char} (h : isJsonBlank c = true) : isQuiet c = true := by
  simp only [isJsonBlank, Bool.or_eq_true, beq_iff_eq] at h
  obtain ((rfl | rfl) | rfl) | rfl := h <;> decide

theorem isQuiet_of_isMark {mark : Char} {cs : List Char} (h : IsMark mark cs)
    (hmark : isQuiet mark = true) : ∀ c ∈ cs, isQuiet c = true := by
  obtain ⟨hbefore, hafter⟩ := h
  refine List.forall_mem_append.2 ⟨fun c hc => isQuiet_of_isJsonBlank (hbefore c hc), ?_⟩
  exact List.forall_mem_cons.2 ⟨hmark, fun c hc => isQuiet_of_isJsonBlank (hafter c hc)⟩

theorem scan_mark {mark : Char} {cs : List Char} (h : IsMark mark cs) (hmark : isQuiet mark = true) :
    scan .outside cs = .outside :=
  scan_outside_of_isQuiet (isQuiet_of_isMark h hmark)

theorem scan_number {cs : List Char} (h : IsNumber cs) : scan .outside cs = .outside := by
  refine scan_outside_of_isQuiet ?_
  have hdigits {ds : List Char} (h : ∀ c ∈ ds, isDigit c = true) : ∀ c ∈ ds, isQuiet c = true :=
    fun c hc => isQuiet_of_isDigit (h c hc)
  obtain ⟨hminus, hwhole, hfraction, hexponent⟩ := h
  simp only [List.forall_mem_append]
  refine ⟨⟨⟨?_, ?_⟩, ?_⟩, ?_⟩
  · obtain rfl | rfl := hminus
    · exact List.forall_mem_nil _
    · exact List.forall_mem_singleton.2 (by decide)
  · cases hwhole with
    | zero => exact List.forall_mem_singleton.2 (by decide)
    | digits hfirst _ hothers => exact hdigits (List.forall_mem_cons.2 ⟨hfirst, hothers⟩)
  · cases hfraction with
    | none => exact List.forall_mem_nil _
    | digits _ hall => exact List.forall_mem_cons.2 ⟨by decide, hdigits hall⟩
  · cases hexponent with
    | none => exact List.forall_mem_nil _
    | digits hletter hsigned _ hall =>
        refine List.forall_mem_cons.2 ⟨?_, List.forall_mem_append.2 ⟨?_, hdigits hall⟩⟩
        · obtain rfl | rfl := hletter <;> decide
        · obtain rfl | rfl | rfl := hsigned
          · exact List.forall_mem_nil _
          · exact List.forall_mem_singleton.2 (by decide)
          · exact List.forall_mem_singleton.2 (by decide)

theorem scan_chars {cs : List Char} (h : IsChars cs) : scan .inside cs = .inside := by
  have hplain {ds : List Char} (h : ∀ c ∈ ds, c ≠ '"' ∧ c ≠ '\\') : scan .inside ds = .inside := by
    induction ds with
    | nil => rfl
    | cons d rest ih =>
        obtain ⟨⟨hquote, hslash⟩, hrest⟩ := List.forall_mem_cons.1 h
        rw [scan_cons, Place.after, if_neg hquote, if_neg hslash]
        exact ih hrest
  induction h with
  | nil => rfl
  | cons hfirst _ ih =>
      rw [scan_append]
      cases hfirst with
      | plain _ hquote hslash =>
          rw [hplain (by simpa using ⟨hquote, hslash⟩)]
          exact ih
      | letter => exact ih
      | code _ hhex =>
          have hdigits := hplain fun d hd =>
            And.intro (ne_of_apply_ne isHexDigit (by rw [hhex d hd]; decide))
              (ne_of_apply_ne isHexDigit (by rw [hhex d hd]; decide))
          exact (congrArg (fun p => scan p _) hdigits).trans ih

theorem scan_string {cs : List Char} (h : IsString cs) : scan .outside cs = .outside := by
  obtain ⟨hchars⟩ := h
  rw [List.cons_append, scan_cons, scan_append]
  exact congrArg (fun p => scan p ['"']) (scan_chars hchars)

theorem scan_word {cs : List Char} (h : cs ∈ ["null".toList, "true".toList, "false".toList]) :
    scan .outside cs = .outside := by
  simp only [List.mem_cons, List.not_mem_nil, or_false] at h
  obtain rfl | rfl | rfl := h <;> rfl

mutual

theorem scan_value : ∀ {cs : List Char}, IsValue cs -> scan .outside cs = .outside
  | _, .word hknown => scan_word hknown
  | _, .number hnumber => scan_number hnumber
  | _, .string hstring => scan_string hstring
  | _, .emptyArray hopens hcloses => by
      rw [scan_append, scan_mark hopens (by decide), scan_mark hcloses (by decide)]
  | _, .array hopens hitems hcloses => by
      rw [scan_append, scan_append, scan_mark hopens (by decide), scan_items hitems,
        scan_mark hcloses (by decide)]
  | _, .emptyObject hopens hcloses => by
      rw [scan_append, scan_mark hopens (by decide), scan_mark hcloses (by decide)]
  | _, .object hopens hmembers hcloses => by
      rw [scan_append, scan_append, scan_mark hopens (by decide), scan_members hmembers,
        scan_mark hcloses (by decide)]

theorem scan_items : ∀ {cs : List Char}, IsItems cs -> scan .outside cs = .outside
  | _, .last hitem => scan_value hitem
  | _, .more hitem hcomma hothers => by
      rw [scan_append, scan_append, scan_value hitem, scan_mark hcomma (by decide),
        scan_items hothers]

theorem scan_member : ∀ {cs : List Char}, IsMember cs -> scan .outside cs = .outside
  | _, .mk hname hcolon hitem => by
      rw [scan_append, scan_append, scan_string hname, scan_mark hcolon (by decide),
        scan_value hitem]

theorem scan_members : ∀ {cs : List Char}, IsMembers cs -> scan .outside cs = .outside
  | _, .last hmember => scan_member hmember
  | _, .more hmember hcomma hothers => by
      rw [scan_append, scan_append, scan_member hmember, scan_mark hcomma (by decide),
        scan_members hothers]

end

/-- A text of the grammar has no such words. -/
theorem scan_text {cs : List Char} (h : IsText cs) : scan .outside cs = .outside := by
  obtain ⟨hbefore, hvalue, hafter⟩ := h
  have hblanks {blanks : List Char} (h : ∀ c ∈ blanks, isJsonBlank c = true) :
      scan .outside blanks = .outside :=
    scan_outside_of_isQuiet fun c hc => isQuiet_of_isJsonBlank (h c hc)
  rw [scan_append, scan_append, hblanks hbefore, scan_value hvalue, hblanks hafter]

/-! ### Texts that are written in ASCII -/

theorem scan_realText (x : Binary64) :
    scan .outside (Decimal.scripted.text x).toList = .ofSound x.isFinite := by
  cases hfinite : x.isFinite with
  | true => exact scan_number (isNumber_layoutText Decimal.scripted hfinite)
  | false =>
      rw [← text_settled]
      obtain ⟨hsettled, -⟩ | hword := tells_settled .compact x
      · rw [Binary64.isFinite_settled, hfinite] at hsettled
        cases hsettled
      · change ((Decimal.scripted.text x.settled).toList, _) ∈ _ at hword
        generalize (Decimal.scripted.text x.settled).toList = word at hword
        simp only [words, List.drop, List.mem_cons, Prod.mk.injEq, List.not_mem_nil, or_false]
          at hword
        obtain ⟨rfl, -⟩ | ⟨rfl, -⟩ | ⟨rfl, -⟩ := hword <;> rfl

section

variable {style : Style}

theorem scan_joined {α : Type} (depth : Nat) {piece : α -> List Char} {sound : α -> Bool}
    {xs : List α} (h : ∀ x ∈ xs, scan .outside (piece x) = .ofSound (sound x)) :
    scan .outside (style.joined depth (xs.map piece)) = .ofSound (xs.all sound) := by
  obtain ⟨blanks, hblanks, hjoined⟩ := exists_joined_cons_cons style depth
  have hcomma : ∀ c ∈ ',' :: blanks, isQuiet c = true :=
    List.forall_mem_cons.2 ⟨by decide, fun c hc => isQuiet_of_isJsonBlank (hblanks c hc)⟩
  induction xs with
  | nil => rfl
  | cons x rest ih =>
      obtain ⟨hx, hrest⟩ := List.forall_mem_cons.1 h
      cases rest with
      | nil =>
          rw [List.map_singleton, joined_singleton, hx]
          simp
      | cons y rest =>
          rw [List.map_cons, List.map_cons, hjoined, ← List.cons_append, scan_append, hx, scan_append,
            scan_ofSound_of_isQuiet hcomma, List.all_cons]
          cases sound x with
          | false => exact scan_spoiled _
          | true => exact ih hrest

theorem scan_bracketed {depth : Nat} {left right : Char} {xs : List (List Char)} {sound : Bool}
    (hleft : isQuiet left = true) (hright : isQuiet right = true)
    (h : scan .outside (style.joined (depth + 1) xs) = .ofSound sound) :
    scan .outside (style.bracketed depth left right xs) = .ofSound sound := by
  have hblanks (depth : Nat) : ∀ c ∈ style.lineStart depth, isQuiet c = true :=
    fun c hc => isQuiet_of_isJsonBlank (isJsonBlank_lineStart style depth c hc)
  cases xs with
  | nil =>
      have hboth : ∀ c ∈ [left, right], isQuiet c = true := by simp [hleft, hright]
      exact (scan_outside_of_isQuiet hboth).trans h
  | cons x rest =>
      have hopens : ∀ c ∈ left :: style.lineStart (depth + 1), isQuiet c = true :=
        List.forall_mem_cons.2 ⟨hleft, hblanks _⟩
      have hcloses : ∀ c ∈ style.lineStart depth ++ [right], isQuiet c = true :=
        List.forall_mem_append.2 ⟨hblanks _, by simpa using hright⟩
      rw [bracketed_cons, ← List.cons_append, scan_append, scan_outside_of_isQuiet hopens, scan_append]
      exact (congrArg (fun p => scan p _) h).trans (scan_ofSound_of_isQuiet hcloses sound)

end

theorem scan_write (spread : Spread) (j : Json) :
    ∀ depth, scan .outside (write (asciiStyle spread) depth j) = .ofSound j.isFinite := by
  induction j using nestedInduction with
  | null => exact fun _ => rfl
  | bool b => cases b <;> exact fun _ => rfl
  | int n => exact fun _ => scan_number (isNumber_intText n)
  | real x => exact fun _ => scan_realText x
  | string s => exact fun _ => scan_string (isString_writtenString _ s)
  | array items ih =>
      intro depth
      have hsound : items.all isFinite = areFinite items := by
        rw [Bool.eq_iff_iff, List.all_eq_true, areFinite_iff]
      rw [write, writeItems_eq_map, isFinite, ← hsound]
      exact scan_bracketed (by decide) (by decide)
        (scan_joined _ fun item hitem => ih item hitem (depth + 1))
  | object members ih =>
      intro depth
      have hsound : (members.all fun member => member.2.isFinite) = haveFinite members := by
        rw [Bool.eq_iff_iff, List.all_eq_true, haveFinite_iff]
      rw [write, writeMembers_eq_map, isFinite, ← hsound]
      refine scan_bracketed (by decide) (by decide) (scan_joined _ fun member hmember => ?_)
      obtain ⟨blanks, hcolon, hblanks⟩ := exists_colon (asciiStyle spread)
      rw [writtenMember, scan_append, scan_append, scan_string (isString_writtenString _ _), hcolon,
        scan_mark (isMark_left hblanks) (by decide), ih member hmember]

/-- What is written in ASCII is a JSON text exactly if its numbers are finite. -/
theorem isText_render_iff (spread : Spread) (j : Json) :
    IsText (render (asciiStyle spread) j).toList ↔ j.isFinite = true := by
  have htext : (render (asciiStyle spread) j).toList = write (asciiStyle spread) 0 j := by
    simp [render]
  rw [htext]
  constructor
  · intro h
    have hscan := (scan_write spread j 0).symm.trans (scan_text h)
    cases hfinite : j.isFinite with
    | true => rfl
    | false =>
        rw [hfinite] at hscan
        cases hscan
  · intro hfinite
    have hvalue := isValue_write (regular_asciiStyle spread) j hfinite 0
    have h := @IsText.mk [] _ [] (List.forall_mem_nil _) hvalue (List.forall_mem_nil _)
    rwa [List.append_nil] at h

end Clearance.Json
