import Clearance.Proofs.Json.Number
import Clearance.Proofs.Json.Text

/-!
# Documents read back

A document that is written in any style is read as itself, if the style tells its numbers: finite
ones in some layout, and others by the words that stand for them.
-/

namespace Clearance.Json

open Text (Stops)

mutual

/-- Whether all numbers of a document are finite. -/
def isFinite : Json -> Bool
  | .real x => x.isFinite
  | .array items => areFinite items
  | .object members => haveFinite members
  | _ => true

def areFinite : List Json -> Bool
  | [] => true
  | item :: rest => isFinite item && areFinite rest

def haveFinite : List (String × Json) -> Bool
  | [] => true
  | (_, item) :: rest => isFinite item && haveFinite rest

end

theorem areFinite_iff {items : List Json} :
    areFinite items = true ↔ ∀ item ∈ items, item.isFinite = true := by
  induction items with
  | nil => simp [areFinite]
  | cons item rest ih => simp [areFinite, ih]

theorem haveFinite_iff {members : List (String × Json)} :
    haveFinite members = true ↔ ∀ member ∈ members, member.2.isFinite = true := by
  induction members with
  | nil => simp [haveFinite]
  | cons member rest ih => simp [haveFinite, ih]

/-- A style writes finite numbers in layouts. -/
def Style.Regular (style : Style) : Prop :=
  ∀ x : Binary64, x.isFinite = true -> ∃ layout : Decimal.Layout, style.realText x = layout.text x

theorem regular_asciiStyle (spread : Spread) : (asciiStyle spread).Regular :=
  fun _ _ => ⟨Decimal.scripted, rfl⟩

theorem regular_plainStyle (spread : Spread) : (plainStyle spread).Regular :=
  fun _ hx => ⟨Decimal.bare, if_pos hx⟩

mutual

/-- The numbers of a document that are written as not whole. -/
def reals : Json -> List Binary64
  | .real x => [x]
  | .array items => itemReals items
  | .object members => memberReals members
  | _ => []

def itemReals : List Json -> List Binary64
  | [] => []
  | item :: rest => reals item ++ itemReals rest

def memberReals : List (String × Json) -> List Binary64
  | [] => []
  | (_, item) :: rest => reals item ++ memberReals rest

end

theorem mem_itemReals {x : Binary64} {items : List Json} :
    x ∈ itemReals items ↔ ∃ item ∈ items, x ∈ item.reals := by
  induction items with
  | nil => simp [itemReals]
  | cons item rest ih => simp [itemReals, ih]

theorem mem_memberReals {x : Binary64} {members : List (String × Json)} :
    x ∈ memberReals members ↔ ∃ member ∈ members, x ∈ member.2.reals := by
  induction members with
  | nil => simp [memberReals]
  | cons member rest ih => simp [memberReals, ih]

/-- A style tells a finite number in a layout, and any other by its word. -/
def Style.Tells (style : Style) (x : Binary64) : Prop :=
  (x.isFinite = true ∧ ∃ layout : Decimal.Layout, style.realText x = layout.text x) ∨
    ((style.realText x).toList, Json.real x) ∈ words.drop 3

/-- A style tells all the numbers of a document. -/
def Style.TellsAll (style : Style) (j : Json) : Prop :=
  ∀ x ∈ j.reals, style.Tells x

theorem Style.TellsAll.real {style : Style} {x : Binary64} (h : style.TellsAll (.real x)) :
    style.Tells x :=
  h x (by simp [reals])

theorem Style.TellsAll.item {style : Style} {items : List Json}
    (h : style.TellsAll (.array items)) : ∀ item ∈ items, style.TellsAll item :=
  fun item hitem x hx => h x (by rw [reals]; exact mem_itemReals.2 ⟨item, hitem, hx⟩)

theorem Style.TellsAll.member {style : Style} {members : List (String × Json)}
    (h : style.TellsAll (.object members)) : ∀ member ∈ members, style.TellsAll member.2 :=
  fun member hmember x hx => h x (by rw [reals]; exact mem_memberReals.2 ⟨member, hmember, hx⟩)

/-! ## Blanks -/

theorem skipBlanks_append {c : Cursor} {blanks rest : List Char}
    (hblanks : ∀ b ∈ blanks, isJsonBlank b = true) (hrest : Stops isJsonBlank rest)
    (hc : c.rest = blanks ++ rest) : skipBlanks c = c.skip blanks.length := by
  unfold skipBlanks
  rw [hc, Text.takeWhile_append_stop hblanks hrest]

theorem isJsonBlank_lineStart (style : Style) (depth : Nat) :
    ∀ b ∈ style.lineStart depth, isJsonBlank b = true := by
  intro b hb
  unfold Style.lineStart at hb
  split at hb
  · obtain rfl | hb := List.mem_cons.1 hb
    · rfl
    · obtain ⟨-, rfl⟩ := List.mem_replicate.1 hb
      rfl
  · cases hb

theorem exists_separator (style : Style) (depth : Nat) :
    ∃ blanks, style.separator depth = ',' :: blanks ∧ ∀ b ∈ blanks, isJsonBlank b = true := by
  unfold Style.separator
  split
  · exact ⟨[], rfl, by simp⟩
  · exact ⟨[' '], rfl, by simp [isJsonBlank]⟩
  · exact ⟨_, rfl, isJsonBlank_lineStart style depth⟩

theorem exists_colon (style : Style) :
    ∃ blanks, style.colon = ':' :: blanks ∧ ∀ b ∈ blanks, isJsonBlank b = true := by
  unfold Style.colon
  split
  · exact ⟨[], rfl, by simp⟩
  · exact ⟨[' '], rfl, by simp [isJsonBlank]⟩

/-! ## The first character -/

/-- Whether a value may begin with a character. -/
def opensValue (c : Char) : Bool :=
  Decimal.isDigit c || ['-', '"', '[', '\x7b', 'n', 't', 'f', 'N', 'I'].contains c

theorem exists_number_head {t : NumberText} (ht : t.Regular) :
    ∃ ch more, t.chars = ch :: more ∧ (Decimal.isDigit ch = true ∨
      ch = '-' ∧ ∃ d rest, more = d :: rest ∧ Decimal.isDigit d = true) := by
  obtain ⟨negative, whole, fraction, exponent⟩ := t
  obtain ⟨d, more, rfl⟩ := List.exists_cons_of_ne_nil ht.whole_ne_nil
  have hd := ht.whole_digits d (List.mem_cons_self ..)
  cases negative with
  | true => exact ⟨'-', _, rfl, .inr ⟨rfl, d, _, rfl, hd⟩⟩
  | false => exact ⟨d, _, rfl, .inl hd⟩

/-- A number is no text, no list, no dictionary and no word. -/
theorem readValue_number {t : NumberText} (ht : t.Regular) {c : Cursor} {rest : List Char}
    (hc : c.rest = t.chars ++ rest) {found : Json × Cursor} (hfound : readNumber? c = some found)
    (fuel : Nat) : readValue (fuel + 1) c = .ok found := by
  obtain ⟨ch, more, hchars, hhead⟩ := exists_number_head ht
  rw [hchars, List.cons_append] at hc
  have hword : readWord? c = none := by
    obtain hdigit | ⟨rfl, d, rest, rfl, hdigit⟩ := hhead
    · have hne (letter : Char) (h : Decimal.isDigit letter = false) : letter ≠ ch :=
        (ne_of_isDigit hdigit h).symm
      simp [readWord?, words, hc, hne 'n' (by decide), hne 't' (by decide), hne 'f' (by decide),
        hne 'N' (by decide), hne 'I' (by decide), hne '-' (by decide)]
    · have hne : 'I' ≠ d := (ne_of_isDigit hdigit (by decide)).symm
      simp [readWord?, words, hc, hne]
  have hopen : ch ≠ '"' ∧ ch ≠ '[' ∧ ch ≠ '\x7b' := by
    obtain hdigit | ⟨rfl, -⟩ := hhead
    · exact ⟨ne_of_isDigit hdigit (by decide), ne_of_isDigit hdigit (by decide),
        ne_of_isDigit hdigit (by decide)⟩
    · decide
  rw [readValue, hc]
  split
  · rename_i heq
    exact absurd (List.cons.inj heq).1 hopen.1
  · rename_i heq
    exact absurd (List.cons.inj heq).1 hopen.2.1
  · rename_i heq
    exact absurd (List.cons.inj heq).1 hopen.2.2
  · rw [hword, hfound]

theorem exists_write_head {style : Style} (depth : Nat) (j : Json) (hj : style.TellsAll j) :
    ∃ ch more, write style depth j = ch :: more ∧ opensValue ch = true := by
  have hnumber {t : NumberText} (ht : t.Regular) :
      ∃ ch more, t.chars = ch :: more ∧ opensValue ch = true := by
    obtain ⟨ch, more, hchars, hdigit | ⟨rfl, -⟩⟩ := exists_number_head ht
    · exact ⟨ch, more, hchars, by simp [opensValue, hdigit]⟩
    · exact ⟨'-', more, hchars, by decide⟩
  cases j with
  | null => exact ⟨'n', _, rfl, by decide⟩
  | bool b => cases b <;> exact ⟨_, _, rfl, by decide⟩
  | int n =>
      rw [write, intText_chars]
      exact hnumber (regular_int n)
  | real x =>
      rw [write]
      obtain ⟨hfinite, layout, hlayout⟩ | hword := hj.real
      · obtain ⟨mantissa, exponent, hmagnitude⟩ := Binary64.exists_magnitude_of_isFinite hfinite
        obtain ⟨t, ht⟩ := exists_numberText layout hmagnitude
        rw [hlayout, toList_text hmagnitude, ← ht.chars]
        exact hnumber ht.regular
      · generalize (style.realText x).toList = word at hword
        simp only [words, List.drop, List.mem_cons, Prod.mk.injEq, List.not_mem_nil, or_false]
          at hword
        obtain ⟨rfl, -⟩ | ⟨rfl, -⟩ | ⟨rfl, -⟩ := hword
        all_goals exact ⟨_, _, rfl, by decide⟩
  | string s => exact ⟨'"', _, rfl, by decide⟩
  | array items =>
      rw [write]
      unfold Style.bracketed
      split <;> exact ⟨'[', _, rfl, by decide⟩
  | object members =>
      rw [write]
      unfold Style.bracketed
      split <;> exact ⟨'\x7b', _, rfl, by decide⟩

theorem ne_of_opensValue {ch other : Char} (h : opensValue ch = true)
    (hother : opensValue other = false) : ch ≠ other := by
  rintro rfl
  rw [h] at hother
  cases hother

theorem isJsonBlank_of_opensValue {ch : Char} (h : opensValue ch = true) :
    isJsonBlank ch = false := by
  simp only [isJsonBlank, Bool.or_eq_false_iff, beq_eq_false_iff_ne]
  exact ⟨⟨⟨ne_of_opensValue h (by decide), ne_of_opensValue h (by decide)⟩,
    ne_of_opensValue h (by decide)⟩, ne_of_opensValue h (by decide)⟩

/-! ## Values, items and members -/

/-- The words for nothing, for the Booleans and for numbers that are not finite. -/
theorem readValue_word {word : List Char} {j : Json} (hword : (word, j) ∈ words)
    {c : Cursor} {rest : List Char} (hc : c.rest = word ++ rest) (fuel : Nat) :
    readValue (fuel + 1) c = .ok (j, c.skip word.length) := by
  have hread : readWord? c = some (j, c.skip word.length) ∧
      ∃ ch more, c.rest = ch :: more ∧ ch ≠ '"' ∧ ch ≠ '[' ∧ ch ≠ '\x7b' := by
    simp only [words, List.mem_cons, Prod.mk.injEq, List.not_mem_nil, or_false] at hword
    obtain ⟨rfl, rfl⟩ | ⟨rfl, rfl⟩ | ⟨rfl, rfl⟩ | ⟨rfl, rfl⟩ | ⟨rfl, rfl⟩ | ⟨rfl, rfl⟩ := hword
    all_goals exact ⟨by simp [readWord?, words, hc], _, _, hc, by decide⟩
  obtain ⟨hread, ch, more, hhead, hquote, hbracket, hbrace⟩ := hread
  rw [readValue, hhead]
  split
  · rename_i heq
    exact absurd (List.cons.inj heq).1 hquote
  · rename_i heq
    exact absurd (List.cons.inj heq).1 hbracket
  · rename_i heq
    exact absurd (List.cons.inj heq).1 hbrace
  · rw [hread]

theorem intercalate_cons_cons (separator x y : List Char) (rest : List (List Char)) :
    List.intercalate separator (x :: y :: rest) =
      x ++ (separator ++ List.intercalate separator (y :: rest)) := by
  simp [List.intercalate]

theorem bracketed_cons (style : Style) (depth : Nat) (left right : Char) (x : List Char)
    (rest : List (List Char)) :
    style.bracketed depth left right (x :: rest) =
      left :: (style.lineStart (depth + 1) ++
        (List.intercalate (style.separator (depth + 1)) (x :: rest) ++
          (style.lineStart depth ++ [right]))) := by
  simp [Style.bracketed]

theorem continuesNumber_of_isJsonBlank {b : Char} (h : isJsonBlank b = true) :
    continuesNumber b = false := by
  simp only [isJsonBlank, Bool.or_eq_true, beq_iff_eq] at h
  obtain ((rfl | rfl) | rfl) | rfl := h <;> decide

/-- No number goes on behind the last item of a list or a dictionary. -/
theorem stops_before_close {blanks rest : List Char} {close : Char}
    (hblanks : ∀ b ∈ blanks, isJsonBlank b = true) (hclose : continuesNumber close = false) :
    Stops continuesNumber (blanks ++ close :: rest) := by
  cases blanks with
  | nil => exact Text.stops_cons.2 hclose
  | cons b more =>
      exact Text.stops_cons.2 (continuesNumber_of_isJsonBlank (hblanks b (List.mem_cons_self ..)))

theorem skipBlanks_skip_one {c : Cursor} {first : Char} {blanks rest : List Char}
    (hblanks : ∀ b ∈ blanks, isJsonBlank b = true) (hrest : Stops isJsonBlank rest)
    (hc : c.rest = first :: (blanks ++ rest)) :
    skipBlanks (c.skip 1) = c.skip (blanks.length + 1) := by
  rw [skipBlanks_append hblanks hrest (Cursor.rest_skip_one hc), Cursor.skip_skip, Nat.add_comm]

theorem rest_skip_blanks {c : Cursor} {first : Char} {blanks rest : List Char}
    (hc : c.rest = first :: (blanks ++ rest)) : (c.skip (blanks.length + 1)).rest = rest := by
  simp [hc]

section

variable {c : Cursor} {blanks rest : List Char} {fuel : Nat}

theorem readValue_emptyArray (hc : c.rest = '[' :: ']' :: rest) :
    readValue (fuel + 1) c = .ok (.array [], c.skip 2) := by
  have hskip := @skipBlanks_skip_one c '[' [] (']' :: rest) (by simp) (Text.stops_cons.2 rfl) hc
  have hclose : (c.skip ([].length + 1)).rest = ']' :: rest := @rest_skip_blanks c '[' [] _ hc
  rw [readValue, hc]
  simp only [hskip, hclose]
  simp only [Cursor.skip_skip, List.length_nil, Nat.zero_add]

theorem readValue_array {ch : Char} (hblanks : ∀ b ∈ blanks, isJsonBlank b = true)
    (hopen : opensValue ch = true) (hc : c.rest = '[' :: (blanks ++ ch :: rest)) :
    readValue (fuel + 1) c =
      (readItems fuel [] (c.skip (blanks.length + 1))).map fun (items, c) => (.array items, c) := by
  have hskip := skipBlanks_skip_one hblanks
    (Text.stops_cons.2 (isJsonBlank_of_opensValue hopen)) hc
  have hnext := rest_skip_blanks hc
  have hclose : ch ≠ ']' := ne_of_opensValue hopen (by decide)
  rw [readValue, hc]
  simp only [hskip, hnext]
  split
  · rename_i heq
    exact absurd (List.cons.inj heq).1 hclose
  · rfl

theorem readItems_last {item : Json} {acc : List Json} {c' : Cursor}
    (hblanks : ∀ b ∈ blanks, isJsonBlank b = true) (hread : readValue fuel c = .ok (item, c'))
    (hc : c'.rest = blanks ++ ']' :: rest) :
    readItems (fuel + 1) acc c = .ok ((item :: acc).reverse, c'.skip (blanks.length + 1)) := by
  have hskip := skipBlanks_append hblanks (Text.stops_cons.2 rfl) hc
  have hclose := Cursor.rest_skip_append hc
  rw [readItems, hread]
  simp only [hskip, hclose]
  simp only [Cursor.skip_skip]

theorem readItems_next {item : Json} {acc : List Json} {c' : Cursor}
    (hblanks : ∀ b ∈ blanks, isJsonBlank b = true) (hread : readValue fuel c = .ok (item, c'))
    (hc : c'.rest = ',' :: (blanks ++ rest)) (hrest : Stops isJsonBlank rest) :
    readItems (fuel + 1) acc c = readItems fuel (item :: acc) (c'.skip (blanks.length + 1)) := by
  have hskip := @skipBlanks_append c' [] _ (by simp) (Text.stops_cons.2 rfl) hc
  rw [readItems, hread]
  simp only [hskip, List.length_nil, Cursor.skip_zero, hc, skipBlanks_skip_one hblanks hrest hc]

theorem readValue_emptyObject (hc : c.rest = '\x7b' :: '\x7d' :: rest) :
    readValue (fuel + 1) c = .ok (.object [], c.skip 2) := by
  have hskip := @skipBlanks_skip_one c '\x7b' [] ('\x7d' :: rest) (by simp)
    (Text.stops_cons.2 rfl) hc
  have hclose : (c.skip ([].length + 1)).rest = '\x7d' :: rest := @rest_skip_blanks c _ [] _ hc
  rw [readValue, hc]
  simp only [hskip, hclose]
  simp only [Cursor.skip_skip, List.length_nil, Nat.zero_add]

theorem readValue_object (hblanks : ∀ b ∈ blanks, isJsonBlank b = true)
    (hc : c.rest = '\x7b' :: (blanks ++ '"' :: rest)) :
    readValue (fuel + 1) c =
      (readMembers fuel [] (c.skip (blanks.length + 1))).map
        fun (members, c) => (.object members, c) := by
  have hskip := skipBlanks_skip_one hblanks (Text.stops_cons.2 rfl) hc
  have hnext := rest_skip_blanks hc
  rw [readValue, hc]
  simp only [hskip, hnext]
  split
  · rename_i heq
    exact absurd (List.cons.inj heq).1 (by decide)
  · rfl

/-- A name and the blanks around its colon, up to the value. -/
theorem readMembers_name {asciiOnly : Bool} {name : String} {acc : List (String × Json)}
    (hblanks : ∀ b ∈ blanks, isJsonBlank b = true) (hrest : Stops isJsonBlank rest)
    (hc : c.rest = writtenString asciiOnly name ++ ':' :: (blanks ++ rest)) :
    readMembers (fuel + 1) acc c =
      match readValue fuel
        (c.skip ((writtenString asciiOnly name).length + (blanks.length + 1))) with
      | .error fault => .error fault
      | .ok (item, c) =>
          let c := skipBlanks c
          match c.rest with
          | '\x7d' :: _ => .ok (((name, item) :: acc).reverse, c.skip 1)
          | ',' :: _ => readMembers fuel ((name, item) :: acc) (skipBlanks (c.skip 1))
          | _ => c.fail .comma := by
  have hread := readString_writtenString asciiOnly name hc
  have hquote : ∃ more, c.rest = '"' :: more := ⟨_, hc⟩
  obtain ⟨more, hquote⟩ := hquote
  have hafter := Cursor.rest_skip_append hc
  have hskip := @skipBlanks_append (c.skip (writtenString asciiOnly name).length) [] _ (by simp)
    (Text.stops_cons.2 rfl) hafter
  rw [readMembers, hquote]
  simp only [hread, hskip, List.length_nil, Cursor.skip_zero, hafter,
    skipBlanks_skip_one hblanks hrest hafter]
  rewrite [Cursor.skip_skip]
  rfl

theorem readMembers_last {asciiOnly : Bool} {name : String} {item : Json}
    {acc : List (String × Json)} {c' : Cursor} {spaces value : List Char}
    (hspaces : ∀ b ∈ spaces, isJsonBlank b = true) (hvalue : Stops isJsonBlank value)
    (hc : c.rest = writtenString asciiOnly name ++ ':' :: (spaces ++ value))
    (hread : readValue fuel
      (c.skip ((writtenString asciiOnly name).length + (spaces.length + 1))) = .ok (item, c'))
    (hblanks : ∀ b ∈ blanks, isJsonBlank b = true) (hc' : c'.rest = blanks ++ '\x7d' :: rest) :
    readMembers (fuel + 1) acc c =
      .ok (((name, item) :: acc).reverse, c'.skip (blanks.length + 1)) := by
  have hskip := skipBlanks_append hblanks (Text.stops_cons.2 rfl) hc'
  have hclose := Cursor.rest_skip_append hc'
  rw [readMembers_name hspaces hvalue hc, hread]
  simp only [hskip, hclose]
  simp only [Cursor.skip_skip]

theorem readMembers_next {asciiOnly : Bool} {name : String} {item : Json}
    {acc : List (String × Json)} {c' : Cursor} {spaces value : List Char}
    (hspaces : ∀ b ∈ spaces, isJsonBlank b = true) (hvalue : Stops isJsonBlank value)
    (hc : c.rest = writtenString asciiOnly name ++ ':' :: (spaces ++ value))
    (hread : readValue fuel
      (c.skip ((writtenString asciiOnly name).length + (spaces.length + 1))) = .ok (item, c'))
    (hblanks : ∀ b ∈ blanks, isJsonBlank b = true) (hc' : c'.rest = ',' :: (blanks ++ rest))
    (hrest : Stops isJsonBlank rest) :
    readMembers (fuel + 1) acc c =
      readMembers fuel ((name, item) :: acc) (c'.skip (blanks.length + 1)) := by
  have hskip := @skipBlanks_append c' [] _ (by simp) (Text.stops_cons.2 rfl) hc'
  rw [readMembers_name hspaces hvalue hc, hread]
  simp only [hskip, List.length_nil, Cursor.skip_zero, hc', skipBlanks_skip_one hblanks hrest hc']

end

/-! ## Documents -/

variable {style : Style}

/-- The characters of the items of a list, or of the members of a dictionary. -/
def Style.joined (style : Style) (depth : Nat) (items : List (List Char)) : List Char :=
  List.intercalate (style.separator depth) items

theorem exists_joined_cons (style : Style) (depth : Nat) (x : List Char) (rest : List (List Char)) :
    ∃ tail, style.joined depth (x :: rest) = x ++ tail := by
  cases rest with
  | nil => exact ⟨[], by simp [Style.joined, List.intercalate]⟩
  | cons y rest => exact ⟨_, intercalate_cons_cons _ x y rest⟩

theorem joined_singleton (style : Style) (depth : Nat) (x : List Char) :
    style.joined depth [x] = x := by
  simp [Style.joined, List.intercalate]

theorem exists_joined_cons_cons (style : Style) (depth : Nat) :
    ∃ blanks, (∀ b ∈ blanks, isJsonBlank b = true) ∧ ∀ (x y : List Char) (rest : List (List Char)),
      style.joined depth (x :: y :: rest) =
        x ++ ',' :: (blanks ++ style.joined depth (y :: rest)) := by
  obtain ⟨blanks, hseparator, hblanks⟩ := exists_separator style depth
  refine ⟨blanks, hblanks, fun x y rest => ?_⟩
  rw [Style.joined, intercalate_cons_cons, ← Style.joined, hseparator]
  rfl

theorem exists_joined_items_head (depth : Nat) (item : Json) (others : List Json)
    (hitem : style.TellsAll item) :
    ∃ ch more, style.joined depth (writeItems style depth (item :: others)) = ch :: more ∧
      opensValue ch = true := by
  obtain ⟨ch, more, hhead, hopen⟩ := exists_write_head depth item hitem
  obtain ⟨tail, hjoined⟩ := exists_joined_cons style depth (write style depth item)
    (writeItems style depth others)
  exact ⟨ch, more ++ tail, by rw [writeItems, hjoined, hhead]; rfl, hopen⟩

theorem exists_joined_members_head (depth : Nat) (name : String) (item : Json)
    (others : List (String × Json)) :
    ∃ more, style.joined depth (writeMembers style depth ((name, item) :: others)) = '"' :: more := by
  obtain ⟨tail, hjoined⟩ := exists_joined_cons style depth
    (writtenString style.asciiOnly name ++ style.colon ++ write style depth item)
    (writeMembers style depth others)
  exact ⟨_, hjoined⟩

/-- Induction over a document with its items and members. -/
@[elab_as_elim] theorem nestedInduction {motive : Json -> Prop} (null : motive .null)
    (bool : ∀ b, motive (.bool b)) (int : ∀ n, motive (.int n)) (real : ∀ x, motive (.real x))
    (string : ∀ s, motive (.string s))
    (array : ∀ items, (∀ item ∈ items, motive item) -> motive (.array items))
    (object : ∀ members, (∀ member ∈ members, motive member.2) -> motive (.object members)) :
    ∀ j, motive j
  | .null => null
  | .bool b => bool b
  | .int n => int n
  | .real x => real x
  | .string s => string s
  | .array items => array items fun item hitem =>
      have := List.sizeOf_lt_of_mem hitem
      nestedInduction null bool int real string array object item
  | .object members => object members fun member hmember =>
      have := List.sizeOf_lt_of_mem hmember
      have : sizeOf member.2 < sizeOf member := by cases member; simp
      nestedInduction null bool int real string array object member.2

/-- A document is read from its text at every depth, whatever follows that no number goes on with. -/
def ReadsBack (style : Style) (j : Json) : Prop :=
  ∀ (depth : Nat) (c : Cursor) (rest : List Char), c.rest = write style depth j ++ rest ->
    Stops continuesNumber rest -> ∀ fuel, 2 * (write style depth j).length ≤ fuel + 1 ->
      readValue (fuel + 1) c = .ok (j, c.skip (write style depth j).length)

theorem ReadsBack.read {j : Json} (h : ReadsBack style j) (hj : style.TellsAll j) {depth : Nat}
    {c : Cursor} {rest : List Char} (hc : c.rest = write style depth j ++ rest)
    (hrest : Stops continuesNumber rest) {fuel : Nat}
    (hfuel : 2 * (write style depth j).length ≤ fuel) :
    readValue fuel c = .ok (j, c.skip (write style depth j).length) := by
  obtain ⟨ch, more, hhead, -⟩ := exists_write_head depth j hj
  have hlength := congrArg List.length hhead
  rw [List.length_cons] at hlength
  obtain ⟨fuel, rfl⟩ := Nat.exists_eq_add_of_le' (show 1 ≤ fuel by omega)
  exact h depth c rest hc hrest fuel hfuel

theorem readItems_write (depth : Nat) (item : Json) (others : List Json)
    (hitems : ∀ j ∈ item :: others, style.TellsAll j)
    (hread : ∀ j ∈ item :: others, ReadsBack style j)
    {c : Cursor} {blanks rest : List Char} (hblanks : ∀ b ∈ blanks, isJsonBlank b = true)
    (hc : c.rest = style.joined depth (writeItems style depth (item :: others)) ++
      (blanks ++ ']' :: rest)) (fuel : Nat)
    (hfuel : 2 * (style.joined depth (writeItems style depth (item :: others))).length < fuel)
    (acc : List Json) :
    readItems fuel acc c = .ok (acc.reverse ++ item :: others,
      c.skip ((style.joined depth (writeItems style depth (item :: others))).length +
        (blanks.length + 1))) := by
  induction others generalizing item c fuel acc with
  | nil =>
      obtain ⟨fuel, rfl⟩ := Nat.exists_eq_succ_of_ne_zero (Nat.ne_of_gt (Nat.zero_lt_of_lt hfuel))
      rw [writeItems, writeItems, joined_singleton] at hc hfuel ⊢
      have hitem := (hread item (List.mem_cons_self ..)).read
        (hitems item (List.mem_cons_self ..)) hc (stops_before_close hblanks (by decide))
        (show _ ≤ fuel by omega)
      rw [readItems_last hblanks hitem (Cursor.rest_skip_append hc)]
      simp
  | cons next others ih =>
      obtain ⟨fuel, rfl⟩ := Nat.exists_eq_succ_of_ne_zero (Nat.ne_of_gt (Nat.zero_lt_of_lt hfuel))
      obtain ⟨hhead, hlater⟩ := List.forall_mem_cons.1 hitems
      obtain ⟨spaces, hspaces, hjoined⟩ := exists_joined_cons_cons style depth
      obtain ⟨first, after, hfirst, hopens⟩ := exists_joined_items_head depth next others
        (hlater next (List.mem_cons_self ..))
      have htext : style.joined depth (writeItems style depth (item :: next :: others)) =
          write style depth item ++ ',' :: (spaces ++
            style.joined depth (writeItems style depth (next :: others))) := hjoined _ _ _
      rw [htext] at hc hfuel ⊢
      simp only [List.append_assoc, List.cons_append, List.length_append, List.length_cons]
        at hc hfuel
      have hitem := (hread item (List.mem_cons_self ..)).read hhead hc
        (Text.stops_cons.2 (by decide)) (show _ ≤ fuel by omega)
      have hafter := Cursor.rest_skip_append hc
      have hstops : Stops isJsonBlank
          (style.joined depth (writeItems style depth (next :: others)) ++ (blanks ++ ']' :: rest)) := by
        rw [hfirst]
        exact Text.stops_cons.2 (isJsonBlank_of_opensValue hopens)
      rw [readItems_next hspaces hitem hafter hstops,
        ih next hlater (fun j hj => hread j (List.mem_cons_of_mem _ hj)) (rest_skip_blanks hafter)
          fuel (by omega)]
      simp only [List.reverse_cons, List.append_assoc, List.singleton_append, Cursor.skip_skip,
        List.length_append, List.length_cons]
      congr 3
      omega

theorem stops_write {depth : Nat} {item : Json} (hitem : style.TellsAll item) (tail : List Char) :
    Stops isJsonBlank (write style depth item ++ tail) := by
  obtain ⟨ch, more, hhead, hopen⟩ := exists_write_head depth item hitem
  rw [hhead]
  exact Text.stops_cons.2 (isJsonBlank_of_opensValue hopen)

/-- The value of a member is read behind its name, and leads to what follows the member. -/
theorem ReadsBack.readMember {name : String} {item : Json} (h : ReadsBack style item)
    (hitem : style.TellsAll item) {depth : Nat} {c : Cursor} {gap rest : List Char}
    (hc : c.rest = writtenString style.asciiOnly name ++
      ':' :: (gap ++ (write style depth item ++ rest)))
    (hrest : Stops continuesNumber rest) {fuel : Nat}
    (hfuel : 2 * (write style depth item).length ≤ fuel) :
    ∃ c', readValue fuel
        (c.skip ((writtenString style.asciiOnly name).length + (gap.length + 1))) = .ok (item, c') ∧
      c' = c.skip ((writtenString style.asciiOnly name).length + (gap.length + 1) +
        (write style depth item).length) ∧
      c'.rest = rest := by
  have hbehind := rest_skip_blanks (Cursor.rest_skip_append hc)
  rw [Cursor.skip_skip] at hbehind
  refine ⟨_, h.read hitem hbehind hrest hfuel, ?_, Cursor.rest_skip_append hbehind⟩
  rw [Cursor.skip_skip]

theorem readMembers_write (depth : Nat) (name : String) (item : Json)
    (others : List (String × Json))
    (hmembers : ∀ member ∈ (name, item) :: others, style.TellsAll member.2)
    (hread : ∀ member ∈ (name, item) :: others, ReadsBack style member.2)
    {c : Cursor} {blanks rest : List Char} (hblanks : ∀ b ∈ blanks, isJsonBlank b = true)
    (hc : c.rest = style.joined depth (writeMembers style depth ((name, item) :: others)) ++
      (blanks ++ '\x7d' :: rest)) (fuel : Nat)
    (hfuel : 2 * (style.joined depth (writeMembers style depth ((name, item) :: others))).length
      < fuel) (acc : List (String × Json)) :
    readMembers fuel acc c = .ok (acc.reverse ++ (name, item) :: others,
      c.skip ((style.joined depth (writeMembers style depth ((name, item) :: others))).length +
        (blanks.length + 1))) := by
  obtain ⟨gap, hcolon, hgap⟩ := exists_colon style
  have hname (name : String) (item : Json) :
      writtenString style.asciiOnly name ++ style.colon ++ write style depth item =
        writtenString style.asciiOnly name ++ ':' :: (gap ++ write style depth item) := by
    rw [hcolon, List.append_assoc]
    rfl
  induction others generalizing name item c fuel acc with
  | nil =>
      obtain ⟨fuel, rfl⟩ := Nat.exists_eq_succ_of_ne_zero (Nat.ne_of_gt (Nat.zero_lt_of_lt hfuel))
      obtain ⟨hhead, hlater⟩ := List.forall_mem_cons.1 hmembers
      rw [writeMembers, writeMembers, joined_singleton, hname] at hc hfuel ⊢
      simp only [List.append_assoc, List.cons_append, List.length_append, List.length_cons]
        at hc hfuel
      have hback : ReadsBack style item := hread (name, item) List.mem_cons_self
      obtain ⟨c', hitem, rfl, hafter⟩ := hback.readMember hhead hc
        (stops_before_close hblanks (by decide)) (show _ ≤ fuel by omega)
      rw [readMembers_last hgap (stops_write hhead _) hc hitem hblanks hafter]
      simp only [List.reverse_cons, Cursor.skip_skip, List.length_append, List.length_cons]
      congr 3
      omega
  | cons next others ih =>
      obtain ⟨fuel, rfl⟩ := Nat.exists_eq_succ_of_ne_zero (Nat.ne_of_gt (Nat.zero_lt_of_lt hfuel))
      obtain ⟨hhead, hlater⟩ := List.forall_mem_cons.1 hmembers
      obtain ⟨next, nextItem⟩ := next
      obtain ⟨spaces, hspaces, hjoined⟩ := exists_joined_cons_cons style depth
      obtain ⟨after, hfirst⟩ := @exists_joined_members_head style depth next nextItem others
      have htext : style.joined depth
          (writeMembers style depth ((name, item) :: (next, nextItem) :: others)) =
            (writtenString style.asciiOnly name ++ ':' :: (gap ++ write style depth item)) ++
              ',' :: (spaces ++
                style.joined depth (writeMembers style depth ((next, nextItem) :: others))) := by
        rw [← hname]
        exact hjoined _ _ _
      rw [htext] at hc hfuel ⊢
      simp only [List.append_assoc, List.cons_append, List.length_append, List.length_cons]
        at hc hfuel
      have hback : ReadsBack style item := hread (name, item) List.mem_cons_self
      obtain ⟨c', hitem, rfl, hafter⟩ := hback.readMember hhead hc
        (Text.stops_cons.2 (by decide)) (show _ ≤ fuel by omega)
      have hstops : Stops isJsonBlank
          (style.joined depth (writeMembers style depth ((next, nextItem) :: others)) ++
            (blanks ++ '\x7d' :: rest)) := by
        rw [hfirst]
        exact Text.stops_cons.2 rfl
      rw [readMembers_next hgap (stops_write hhead _) hc hitem hspaces hafter hstops,
        ih next nextItem hlater (fun member hmember => hread member
          (List.mem_cons_of_mem _ hmember)) (rest_skip_blanks hafter) fuel (by omega)]
      simp only [List.reverse_cons, List.append_assoc, List.singleton_append, Cursor.skip_skip,
        List.length_append, List.length_cons]
      congr 3
      omega

theorem readsBack_array {items : List Json} (hitems : ∀ item ∈ items, style.TellsAll item)
    (hread : ∀ item ∈ items, ReadsBack style item) : ReadsBack style (.array items) := by
  intro depth c rest hc _ fuel hfuel
  rw [write] at hc hfuel ⊢
  cases items with
  | nil => exact readValue_emptyArray hc
  | cons item others =>
      obtain ⟨first, after, hfirst, hopens⟩ := exists_joined_items_head (depth + 1) item others
        (hitems item List.mem_cons_self)
      have hbrackets : style.bracketed depth '[' ']' (writeItems style (depth + 1) (item :: others))
          = '[' :: (style.lineStart (depth + 1) ++
            (style.joined (depth + 1) (writeItems style (depth + 1) (item :: others)) ++
              (style.lineStart depth ++ [']']))) := bracketed_cons ..
      rw [hbrackets] at hc hfuel ⊢
      simp only [List.cons_append, List.append_assoc, List.nil_append, List.length_cons,
        List.length_append] at hc hfuel
      have hinside := rest_skip_blanks hc
      rw [readValue_array (isJsonBlank_lineStart style (depth + 1)) hopens
          (hc.trans (by rw [hfirst]; rfl)),
        readItems_write (depth + 1) item others hitems hread
          (isJsonBlank_lineStart style depth) hinside fuel (by omega)]
      simp only [Except.map, List.reverse_nil, List.nil_append, Cursor.skip_skip,
        List.length_cons, List.length_append, List.length_nil]
      congr 3
      omega

theorem readsBack_object {members : List (String × Json)}
    (hmembers : ∀ member ∈ members, style.TellsAll member.2)
    (hread : ∀ member ∈ members, ReadsBack style member.2) : ReadsBack style (.object members) := by
  intro depth c rest hc _ fuel hfuel
  rw [write] at hc hfuel ⊢
  cases members with
  | nil => exact readValue_emptyObject hc
  | cons member others =>
      obtain ⟨name, item⟩ := member
      obtain ⟨after, hfirst⟩ := @exists_joined_members_head style (depth + 1) name item others
      have hbraces : style.bracketed depth '\x7b' '\x7d'
          (writeMembers style (depth + 1) ((name, item) :: others)) =
            '\x7b' :: (style.lineStart (depth + 1) ++
              (style.joined (depth + 1) (writeMembers style (depth + 1) ((name, item) :: others)) ++
                (style.lineStart depth ++ ['\x7d']))) := bracketed_cons ..
      rw [hbraces] at hc hfuel ⊢
      simp only [List.cons_append, List.append_assoc, List.nil_append, List.length_cons,
        List.length_append] at hc hfuel
      have hinside := rest_skip_blanks hc
      rw [readValue_object (isJsonBlank_lineStart style (depth + 1))
          (hc.trans (by rw [hfirst]; rfl)),
        readMembers_write (depth + 1) name item others hmembers hread
          (isJsonBlank_lineStart style depth) hinside fuel (by omega)]
      simp only [Except.map, List.reverse_nil, List.nil_append, Cursor.skip_skip,
        List.length_cons, List.length_append, List.length_nil]
      congr 3
      omega

/-- A document whose numbers are told is read from its text. -/
theorem readsBack (j : Json) (hj : style.TellsAll j) : ReadsBack style j := by
  induction j using nestedInduction with
  | null => exact fun depth c rest hc _ fuel _ => readValue_word (by simp [words, write]) hc fuel
  | bool b =>
      refine fun depth c rest hc _ fuel _ => readValue_word ?_ hc fuel
      cases b <;> simp [words, write]
  | int n =>
      intro depth c rest hc hrest fuel _
      rw [write] at hc ⊢
      have hread := readNumber?_intText n hrest hc
      rw [intText_chars] at hc
      exact readValue_number (regular_int n) hc hread fuel
  | real x =>
      intro depth c rest hc hrest fuel _
      rw [write] at hc ⊢
      obtain ⟨hfinite, layout, hlayout⟩ | hword := hj.real
      · obtain ⟨mantissa, exponent, hmagnitude⟩ := Binary64.exists_magnitude_of_isFinite hfinite
        obtain ⟨t, ht⟩ := exists_numberText layout hmagnitude
        rw [hlayout] at hc ⊢
        have hread := readNumber?_realText layout hfinite hrest hc
        rw [toList_text hmagnitude, ← ht.chars] at hc
        exact readValue_number ht.regular hc hread fuel
      · exact readValue_word (List.mem_of_mem_drop hword) hc fuel
  | string s =>
      intro depth c rest hc _ fuel _
      rw [write] at hc ⊢
      have hread := readString_writtenString style.asciiOnly s hc
      obtain ⟨more, hquote⟩ : ∃ more, c.rest = '"' :: more := ⟨_, hc⟩
      rw [readValue, hquote]
      simp only [hread, Except.map]
  | array items ih =>
      exact readsBack_array hj.item fun item hitem => ih item hitem (hj.item item hitem)
  | object members ih =>
      exact readsBack_object hj.member fun member hmember =>
        ih member hmember (hj.member member hmember)

/-- A document is read back from its text if the style tells its numbers. -/
theorem parse_render_of_tellsAll (j : Json) (hj : style.TellsAll j) :
    parse (render style j) = .ok j := by
  obtain ⟨ch, more, hhead, hopen⟩ := exists_write_head 0 j hj
  have htext : (render style j).toList = write style 0 j := by simp [render]
  have hstart : skipBlanks { position := 0, rest := write style 0 j } =
      { position := 0, rest := write style 0 j } := by
    have hstops : Stops isJsonBlank (write style 0 j) := by
      rw [hhead]
      exact Text.stops_cons.2 (isJsonBlank_of_opensValue hopen)
    exact (@skipBlanks_append _ [] _ (by simp) hstops rfl).trans (Cursor.skip_zero _)
  have hread := readsBack j hj 0 { position := 0, rest := write style 0 j } []
    (List.append_nil _).symm (Text.stops_nil _) (2 * (write style 0 j).length + 1) (by omega)
  unfold parse
  dsimp only
  rw [htext, hstart, hread]
  simp [skipBlanks]

theorem isFinite_of_mem_reals {j : Json} (hj : j.isFinite = true) :
    ∀ x ∈ j.reals, x.isFinite = true := by
  induction j using nestedInduction with
  | real x =>
      intro y hy
      rw [reals, List.mem_singleton] at hy
      exact hy ▸ hj
  | array items ih =>
      intro x hx
      obtain ⟨item, hitem, hx⟩ := mem_itemReals.1 hx
      exact ih item hitem (areFinite_iff.1 hj item hitem) x hx
  | object members ih =>
      intro x hx
      obtain ⟨member, hmember, hx⟩ := mem_memberReals.1 hx
      exact ih member hmember (haveFinite_iff.1 hj member hmember) x hx
  | _ => exact fun x hx => nomatch hx

/-- Every document with finite numbers is read back from its text. -/
theorem parse_render (hstyle : style.Regular) (j : Json) (hj : j.isFinite = true) :
    parse (render style j) = .ok j :=
  parse_render_of_tellsAll j fun x hx =>
    .inl ⟨isFinite_of_mem_reals hj x hx, hstyle x (isFinite_of_mem_reals hj x hx)⟩

end Clearance.Json
