import Clearance.Printed.Markup
import Clearance.Proofs.Text.Front
import Mathlib.Data.List.Infix

/-!
# Reading markup

Markup is read piece by piece: backslashes, tags, brackets that make no tag, and other characters.
A text that is put between pieces of markup is read on its own but for the backslashes it ends
with, which belong to what follows.  A text is shown as it is exactly if no bracket in it begins a
tag or stands behind a backslash.
-/

namespace Clearance.Printed

open Piece (backslashes)

/-! ## Tags -/

def isBracket (c : Char) : Bool :=
  c == '[' || c == ']'

def startsTag (c : Char) : Bool :=
  ('a' ≤ c && c ≤ 'z') || c == '#' || c == '/' || c == '@'

/-- Whether a text between two brackets makes a tag. -/
def isTag : List Char -> Bool
  | [] => false
  | c :: rest => startsTag c && rest.all fun c => !isBracket c

/-- Whether the first bracket of a text, if it has one, is an opening one. -/
def OpensFirst (t : List Char) : Prop :=
  t.find? isBracket ≠ some ']'

theorem isBracket_of_startsTag {c : Char} (h : startsTag c = true) : isBracket c = false := by
  cases hbracket : isBracket c with
  | false => rfl
  | true =>
      rw [isBracket, Bool.or_eq_true, beq_iff_eq, beq_iff_eq] at hbracket
      obtain rfl | rfl := hbracket <;> exact absurd h (by decide)

theorem isBracket_of_isTag {content : List Char} (h : isTag content = true) :
    ∀ c ∈ content, isBracket c = false := by
  cases content with
  | nil => exact fun c hc => nomatch hc
  | cons first rest =>
      obtain ⟨hfirst, hrest⟩ := Bool.and_eq_true_iff.1 h
      intro c hc
      obtain rfl | hc := List.mem_cons.1 hc
      · exact isBracket_of_startsTag hfirst
      · simpa using List.all_eq_true.1 hrest c hc

/-- A tag is what stands before the first closing bracket, if no other bracket stands before it. -/
theorem tagLength?_eq_some_iff {cs : List Char} {n : Nat} :
    tagLength? cs = some n ↔
      ∃ content rest, cs = content ++ ']' :: rest ∧ isTag content = true ∧
        n = content.length + 1 := by
  constructor
  · intro h
    cases cs with
    | nil => cases h
    | cons c rest =>
        rw [tagLength?] at h
        split at h
        · rename_i hstart
          simp only [Option.ite_none_right_eq_some, Option.some.injEq] at h
          obtain ⟨hclose, rfl⟩ := h
          generalize hinner : rest.takeWhile (fun c => c != '[' && c != ']') = inner at hclose ⊢
          have hclean : ∀ x ∈ inner, isBracket x = false := by
            intro x hx
            rw [← hinner] at hx
            have hpass := List.all_eq_true.1 List.all_takeWhile x hx
            simpa [isBracket] using hpass
          obtain ⟨after, hafter⟩ : inner <+: rest := hinner ▸ List.takeWhile_prefix _
          rw [← hafter, List.getElem?_append_right (Nat.le_refl _), Nat.sub_self] at hclose
          cases after with
          | nil => cases hclose
          | cons d after =>
              cases hclose
              refine ⟨c :: inner, after, by rw [List.cons_append, hafter], ?_, rfl⟩
              rw [isTag, Bool.and_eq_true, List.all_eq_true]
              exact ⟨hstart, fun x hx => by rw [hclean x hx]; rfl⟩
        · cases h
  · rintro ⟨content, rest, rfl, htag, rfl⟩
    cases content with
    | nil => cases htag
    | cons c inner =>
        obtain ⟨hstart, hclean⟩ := Bool.and_eq_true_iff.1 htag
        have htake : (inner ++ ']' :: rest).takeWhile (fun c => c != '[' && c != ']') = inner := by
          refine Text.takeWhile_append_stop (fun x hx => ?_) (Text.stops_cons.2 (by decide))
          simpa [isBracket] using List.all_eq_true.1 hclean x hx
        rw [List.cons_append, tagLength?]
        refine (if_pos hstart).trans ?_
        simp [htake]

theorem opensFirst_nil : OpensFirst [] :=
  fun h => nomatch h

theorem opensFirst_cons {c : Char} {t : List Char} :
    OpensFirst (c :: t) ↔ c = '[' ∨ c ≠ ']' ∧ OpensFirst t := by
  unfold OpensFirst
  rw [List.find?_cons]
  cases hbracket : isBracket c with
  | true =>
      have hclose : ¬(c ≠ ']' ∧ c ≠ '[') := by
        rintro ⟨hclose, hopen⟩
        rw [isBracket, Bool.or_eq_true, beq_iff_eq, beq_iff_eq] at hbracket
        exact hbracket.elim hopen hclose
      grind
  | false =>
      rw [isBracket, Bool.or_eq_false_iff, beq_eq_false_iff_ne, beq_eq_false_iff_ne] at hbracket
      grind

/-- What follows a text and does not close its brackets makes no tag in it. -/
theorem tagLength?_append (rest : List Char) {t : List Char} (h : OpensFirst t) :
    tagLength? (rest ++ t) = tagLength? rest := by
  refine Option.ext fun n => ?_
  rw [tagLength?_eq_some_iff, tagLength?_eq_some_iff]
  constructor
  · rintro ⟨content, after, heq, htag, rfl⟩
    obtain ⟨more, rfl, rfl⟩ | ⟨more, rfl, hafter⟩ := List.append_eq_append_iff.1 heq
    · have hmore : more.find? isBracket = none := by
        refine List.find?_eq_none.2 fun c hc => ?_
        rw [isBracket_of_isTag htag c (List.mem_append_right _ hc)]
        exact Bool.false_ne_true
      exact absurd (by simp [hmore, isBracket]) h
    · cases more with
      | nil =>
          subst hafter
          exact absurd (by simp [isBracket]) h
      | cons c more =>
          obtain rfl : ']' = c := List.head_eq_of_cons_eq hafter
          exact ⟨content, more, rfl, htag, rfl⟩
  · rintro ⟨content, after, rfl, htag, rfl⟩
    exact ⟨content, after ++ t, by simp, htag, rfl⟩

/-! ## Pieces -/

variable {slashes : Nat} {rest : List Char}

theorem piecesFrom_left (left : Nat) (cs : List Char) :
    piecesFrom left 0 cs = piecesFrom 0 0 (cs.drop left) := by
  induction left generalizing cs with
  | zero => rfl
  | succ left ih =>
      cases cs with
      | nil => rfl
      | cons c rest => exact ih rest

theorem piecesFrom_backslash :
    piecesFrom 0 slashes ('\\' :: rest) = piecesFrom 0 (slashes + 1) rest := by
  rw [piecesFrom, if_pos rfl]

/-- A tag behind backslashes: text if their number is odd. -/
def tagPieces (slashes : Nat) (content : List Char) : List Piece :=
  backslashes (slashes / 2)
    ++ if slashes % 2 = 1 then ('[' :: (content ++ [']'])).map Piece.char else [.tag content]

theorem tagPieces_zero (content : List Char) : tagPieces 0 content = [.tag content] := rfl

theorem piecesFrom_tag {content : List Char} (h : isTag content = true) :
    piecesFrom 0 slashes ('[' :: (content ++ ']' :: rest)) =
      tagPieces slashes content ++ piecesFrom 0 0 rest := by
  have hlength : tagLength? (content ++ ']' :: rest) = some (content.length + 1) :=
    tagLength?_eq_some_iff.2 ⟨content, rest, rfl, h, rfl⟩
  have htag : (content ++ ']' :: rest).take (content.length + 1) = content ++ [']'] := by
    simp [List.take_append]
  have hafter : (content ++ ']' :: rest).drop (content.length + 1) = rest := by
    simp [List.drop_append]
  rw [piecesFrom, if_neg (by decide), if_pos rfl, hlength]
  simp only [htag, piecesFrom_left (content.length + 1), hafter, Nat.add_sub_cancel,
    List.take_left, tagPieces]

/-- Before a bracket that makes no tag one backslash is left out. -/
theorem piecesFrom_bracket (h : tagLength? rest = none) :
    piecesFrom 0 slashes ('[' :: rest) =
      backslashes (slashes - 1) ++ .char '[' :: piecesFrom 0 0 rest := by
  rw [piecesFrom, if_neg (by decide), if_pos rfl, h]

theorem piecesFrom_char {c : Char} (hslash : c ≠ '\\') (hbracket : c ≠ '[') :
    piecesFrom 0 slashes (c :: rest) =
      backslashes slashes ++ .char c :: piecesFrom 0 0 rest := by
  rw [piecesFrom, if_neg hslash, if_neg hbracket]

/-- What holds of the empty text, and of a text if it holds of what follows its first piece. -/
theorem pieceInduction {P : List Char -> Prop} (nil : P [])
    (backslash : ∀ rest, P rest -> P ('\\' :: rest))
    (tag : ∀ content rest, isTag content = true -> P rest -> P ('[' :: (content ++ ']' :: rest)))
    (bracket : ∀ rest, tagLength? rest = none -> P rest -> P ('[' :: rest))
    (char : ∀ c rest, c ≠ '\\' -> c ≠ '[' -> P rest -> P (c :: rest)) (cs : List Char) : P cs := by
  induction hn : cs.length using Nat.strong_induction_on generalizing cs with
  | _ n ih =>
      cases cs with
      | nil => exact nil
      | cons c rest =>
          have hrest : P rest := ih rest.length (by rw [← hn]; exact Nat.lt_succ_self _) rest rfl
          by_cases hslash : c = '\\'
          · exact hslash ▸ backslash rest hrest
          by_cases hopen : c = '['
          · subst hopen
            cases hlength : tagLength? rest with
            | none => exact bracket rest hlength hrest
            | some length =>
                obtain ⟨content, after, rfl, htag, -⟩ := tagLength?_eq_some_iff.1 hlength
                refine tag content after htag (ih after.length ?_ after rfl)
                rw [← hn]
                simp only [List.length_cons, List.length_append]
                omega
          · exact char c rest hslash hopen hrest

/-! ## What is shown -/

@[simp] theorem shown_nil : shown [] = [] := rfl

@[simp] theorem shown_append (ps qs : List Piece) : shown (ps ++ qs) = shown ps ++ shown qs :=
  List.filterMap_append

@[simp] theorem shown_cons_char (c : Char) (ps : List Piece) :
    shown (.char c :: ps) = c :: shown ps := rfl

@[simp] theorem shown_cons_tag (content : List Char) (ps : List Piece) :
    shown (.tag content :: ps) = shown ps := rfl

@[simp] theorem shown_map_char (cs : List Char) : shown (cs.map Piece.char) = cs := by
  induction cs with
  | nil => rfl
  | cons c rest ih => rw [List.map_cons, shown_cons_char, ih]

theorem backslashes_eq (n : Nat) : backslashes n = (List.replicate n '\\').map Piece.char := by
  rw [backslashes, List.map_replicate]

@[simp] theorem shown_backslashes (n : Nat) : shown (backslashes n) = List.replicate n '\\' := by
  rw [backslashes_eq, shown_map_char]

theorem shown_tagPieces (n : Nat) (content : List Char) :
    shown (tagPieces n content) =
      List.replicate (n / 2) '\\' ++ if n % 2 = 1 then '[' :: (content ++ [']']) else [] := by
  rw [tagPieces, shown_append, shown_backslashes]
  split
  · rw [shown_map_char]
  · rfl

/-- No more is shown than is written. -/
theorem length_shown_le (cs : List Char) :
    ∀ slashes, (shown (piecesFrom 0 slashes cs)).length ≤ slashes + cs.length := by
  induction cs using pieceInduction with
  | nil => exact fun slashes => by simp [piecesFrom]
  | backslash rest ih =>
      intro slashes
      have := ih (slashes + 1)
      rw [piecesFrom_backslash, List.length_cons]
      omega
  | tag content rest htag ih =>
      intro slashes
      have := ih 0
      rw [piecesFrom_tag htag, shown_append, shown_tagPieces]
      split <;> simp <;> omega
  | bracket rest htag ih =>
      intro slashes
      have := ih 0
      simp only [piecesFrom_bracket htag, shown_append, shown_backslashes, shown_cons_char,
        List.length_append, List.length_replicate, List.length_cons]
      omega
  | char c rest hslash hopen ih =>
      intro slashes
      have := ih 0
      simp only [piecesFrom_char hslash hopen, shown_append, shown_backslashes, shown_cons_char,
        List.length_append, List.length_replicate, List.length_cons]
      omega

/-! ## Text that is shown as it is -/

/-- Whether no bracket of a text begins a tag or stands behind a backslash. -/
structure Verbatim (cs : List Char) : Prop where
  tagless : ∀ rest, '[' :: rest <:+ cs -> tagLength? rest = none
  unescaped : ¬['\\', '['] <:+: cs

theorem verbatim_nil : Verbatim [] where
  tagless := fun _ h => nomatch List.suffix_nil.1 h
  unescaped := fun h => nomatch List.infix_nil.1 h

theorem verbatim_cons_iff {c : Char} :
    Verbatim (c :: rest) ↔
      (c = '[' -> tagLength? rest = none) ∧ (c = '\\' -> rest.head? ≠ some '[') ∧
        Verbatim rest := by
  constructor
  · rintro ⟨htagless, hunescaped⟩
    refine ⟨?_, ?_, ?_, ?_⟩
    · rintro rfl
      exact htagless rest (List.suffix_refl _)
    · rintro rfl hhead
      obtain ⟨more, rfl⟩ : ∃ more, rest = '[' :: more := by
        cases rest with
        | nil => cases hhead
        | cons d more => exact ⟨more, by rw [Option.some.inj hhead]⟩
      exact hunescaped ⟨[], more, rfl⟩
    · exact fun after hafter => htagless after (hafter.trans (List.suffix_cons c rest))
    · exact fun hpart => hunescaped (hpart.trans (List.suffix_cons c rest).isInfix)
  · rintro ⟨htag, hslash, htagless, hunescaped⟩
    constructor
    · intro after hafter
      obtain heq | hafter := List.suffix_cons_iff.1 hafter
      · cases heq
        exact htag rfl
      · exact htagless after hafter
    · intro hpart
      obtain ⟨more, heq⟩ | hpart := List.infix_cons_iff.1 hpart
      · cases heq
        exact hslash rfl rfl
      · exact hunescaped hpart

theorem not_verbatim_tag {content : List Char} (h : isTag content = true) :
    ¬Verbatim ('[' :: (content ++ ']' :: rest)) := by
  intro hverbatim
  have hnone := (verbatim_cons_iff.1 hverbatim).1 rfl
  rw [tagLength?_eq_some_iff.2 ⟨content, rest, rfl, h, rfl⟩] at hnone
  cases hnone

/-- Such a text is read character by character, unless it begins with a bracket behind a backslash. -/
theorem piecesFrom_of_verbatim {cs : List Char} (h : Verbatim cs) :
    ∀ slashes, (slashes = 0 ∨ cs.head? ≠ some '[') ->
      piecesFrom 0 slashes cs = backslashes slashes ++ cs.map Piece.char := by
  induction cs using pieceInduction with
  | nil => exact fun slashes _ => by simp [piecesFrom]
  | backslash rest ih =>
      intro slashes _
      obtain ⟨-, hhead, hrest⟩ := verbatim_cons_iff.1 h
      rw [piecesFrom_backslash, ih hrest (slashes + 1) (.inr (hhead rfl)), backslashes_eq,
        backslashes_eq, List.replicate_succ']
      simp
  | tag content rest htag ih => exact absurd h (not_verbatim_tag htag)
  | bracket rest htag ih =>
      intro slashes hslashes
      obtain rfl : slashes = 0 := hslashes.resolve_right fun hhead => hhead rfl
      rw [piecesFrom_bracket htag, ih (verbatim_cons_iff.1 h).2.2 0 (.inl rfl)]
      rfl
  | char c rest hslash hopen ih =>
      intro slashes _
      rw [piecesFrom_char hslash hopen, ih (verbatim_cons_iff.1 h).2.2 0 (.inl rfl)]
      rfl

/-- Where nothing is lost, there was nothing to lose. -/
theorem verbatim_of_shown {cs : List Char} :
    ∀ slashes, shown (piecesFrom 0 slashes cs) = List.replicate slashes '\\' ++ cs ->
      (slashes = 0 ∨ cs.head? ≠ some '[') ∧ Verbatim cs := by
  induction cs using pieceInduction with
  | nil => exact fun slashes _ => ⟨.inr (fun h => nomatch h), verbatim_nil⟩
  | backslash rest ih =>
      intro slashes h
      rw [piecesFrom_backslash] at h
      have hmore : shown (piecesFrom 0 (slashes + 1) rest) =
          List.replicate (slashes + 1) '\\' ++ rest := by
        rw [h, List.replicate_succ', List.append_assoc, List.singleton_append]
      obtain ⟨hhead, hrest⟩ := ih (slashes + 1) hmore
      have hfirst : '\\' ≠ '[' := by decide
      refine ⟨.inr fun heq => hfirst (Option.some.inj heq), verbatim_cons_iff.2 ⟨?_, ?_, hrest⟩⟩
      · exact fun heq => absurd heq hfirst
      · exact fun _ => hhead.resolve_left (Nat.succ_ne_zero slashes)
  | tag content rest htag ih =>
      -- the tag, or a backslash before it, is missing from what is shown
      intro slashes h
      have hlength := congrArg List.length h
      have hrest := length_shown_le rest 0
      rw [piecesFrom_tag htag, shown_append, shown_tagPieces] at hlength
      split at hlength <;> simp at hlength <;> omega
  | bracket rest htag ih =>
      intro slashes h
      rw [piecesFrom_bracket htag] at h
      cases slashes with
      | zero =>
          have hrest := (ih 0 (List.tail_eq_of_cons_eq h)).2
          exact ⟨.inl rfl, verbatim_cons_iff.2 ⟨fun _ => htag, (fun heq => nomatch heq), hrest⟩⟩
      | succ slashes =>
          rw [List.replicate_succ', List.append_assoc, shown_append, shown_backslashes] at h
          exact absurd (List.head_eq_of_cons_eq (List.append_cancel_left h)) (by decide)
  | char c rest hslash hopen ih =>
      intro slashes h
      rw [piecesFrom_char hslash hopen, shown_append, shown_backslashes] at h
      have hrest := (ih 0 (List.tail_eq_of_cons_eq (List.append_cancel_left h))).2
      refine ⟨.inr fun heq => hopen (Option.some.inj heq), verbatim_cons_iff.2 ⟨?_, ?_, hrest⟩⟩
      · exact fun heq => absurd heq hopen
      · exact fun heq => absurd heq hslash

theorem plain_eq_self_iff {s : String} : plain s = s ↔ Verbatim s.toList := by
  have htext : plain s = s ↔ shown (piecesFrom 0 0 s.toList) = s.toList := by
    rw [plain, pieces, ← String.toList_inj, String.toList_ofList]
  rw [htext]
  constructor
  · exact fun h => (verbatim_of_shown 0 h).2
  · intro h
    rw [piecesFrom_of_verbatim h 0 (.inl rfl), shown_append, shown_map_char]
    rfl

instance (cs : List Char) : Decidable (Verbatim cs) :=
  decidable_of_iff (plain (String.ofList cs) = String.ofList cs) <| by
    rw [plain_eq_self_iff, String.toList_ofList]

/-! ## Texts between pieces of markup -/

/-- The pieces of a text up to the backslashes that it ends with. -/
structure Front (slashes : Nat) (cs : List Char) (front : List Piece) (pending : Nat) : Prop where
  append : ∀ t, OpensFirst t -> piecesFrom 0 slashes (cs ++ t) = front ++ piecesFrom 0 pending t
  pending_pos : 0 < pending ↔ cs = [] ∧ 0 < slashes ∨ cs.getLast? = some '\\'

theorem getLast?_cons_iff {c : Char} (h : c ≠ '\\') :
    (c :: rest).getLast? = some '\\' ↔ rest.getLast? = some '\\' := by
  cases rest with
  | nil => simp [h]
  | cons d more => rw [List.getLast?_cons_cons]

/-- What follows a text changes nothing in it but the backslashes at its end. -/
theorem exists_front (slashes : Nat) (cs : List Char) :
    ∃ front pending, Front slashes cs front pending := by
  induction cs using pieceInduction generalizing slashes with
  | nil => exact ⟨[], slashes, fun t _ => rfl, by simp⟩
  | backslash rest ih =>
      obtain ⟨front, pending, happend, hpending⟩ := ih (slashes + 1)
      refine ⟨front, pending, fun t ht => ?_, ?_⟩
      · rw [List.cons_append, piecesFrom_backslash, happend t ht]
      · rw [hpending]
        cases rest with
        | nil => simp
        | cons c more => simp [List.getLast?_cons_cons]
  | tag content rest htag ih =>
      obtain ⟨front, pending, happend, hpending⟩ := ih 0
      refine ⟨tagPieces slashes content ++ front, pending, fun t ht => ?_, ?_⟩
      · rw [List.cons_append, List.append_assoc, List.cons_append, piecesFrom_tag htag,
          happend t ht, List.append_assoc]
      · have hlast : ('[' :: (content ++ ']' :: rest)).getLast? = (']' :: rest).getLast? := by
          simp [List.getLast?_cons, List.getLast?_append]
        rw [hpending, hlast, getLast?_cons_iff (by decide)]
        simp
  | bracket rest htag ih =>
      obtain ⟨front, pending, happend, hpending⟩ := ih 0
      refine ⟨backslashes (slashes - 1) ++ .char '[' :: front, pending, fun t ht => ?_, ?_⟩
      · have hlonger : tagLength? (rest ++ t) = none := (tagLength?_append rest ht).trans htag
        rw [List.cons_append, piecesFrom_bracket hlonger, happend t ht, List.append_assoc]
        rfl
      · rw [hpending, getLast?_cons_iff (by decide)]
        simp
  | char c rest hslash hopen ih =>
      obtain ⟨front, pending, happend, hpending⟩ := ih 0
      refine ⟨backslashes slashes ++ .char c :: front, pending, fun t ht => ?_, ?_⟩
      · rw [List.cons_append, piecesFrom_char hslash hopen, happend t ht, List.append_assoc]
        rfl
      · rw [hpending, getLast?_cons_iff hslash]
        simp

theorem Front.pieces_eq {cs : List Char} {front : List Piece} {pending : Nat}
    (h : Front slashes cs front pending) :
    piecesFrom 0 slashes cs = front ++ backslashes pending := by
  have happend := h.append [] opensFirst_nil
  rwa [List.append_nil] at happend

/-- A text that is shown as it is and ends with no backslash is its own front. -/
theorem front_of_verbatim {cs : List Char} (h : Verbatim cs) (hlast : cs.getLast? ≠ some '\\') :
    Front 0 cs (cs.map Piece.char) 0 := by
  obtain ⟨front, pending, hfront⟩ := exists_front 0 cs
  obtain rfl : pending = 0 := by
    refine Nat.eq_zero_of_not_pos fun hpos => ?_
    obtain ⟨-, hzero⟩ | heq := hfront.pending_pos.1 hpos
    · exact Nat.lt_irrefl 0 hzero
    · exact hlast heq
  have hpieces := hfront.pieces_eq
  rw [piecesFrom_of_verbatim h 0 (.inl rfl), backslashes, List.replicate_zero, List.append_nil,
    List.nil_append] at hpieces
  exact hpieces ▸ hfront

/-! ## Styles -/

/-- A style whose name makes tags: one that opens it, and one that closes it. -/
structure IsStyle (style : String) : Prop where
  opens : isTag style.toList = true
  closes : isTag ('/' :: style.toList) = true
  named : tagName style.toList = style.toList
  stripped : Text.strip style.toList = style.toList
  unslashed : style.toList.head? ≠ some '/'

/-- The styles that are used. -/
def styles : List String :=
  ["bold", "dim", "green", "yellow", "red", "bold red"]

theorem isStyle_of_mem : ∀ style ∈ styles, IsStyle style := by
  have hnames : ∀ style ∈ styles, isTag style.toList = true ∧ isTag ('/' :: style.toList) = true ∧
      tagName style.toList = style.toList ∧ Text.strip style.toList = style.toList ∧
      style.toList.head? ≠ some '/' := by
    decide
  intro style hstyle
  obtain ⟨hopens, hcloses, hnamed, hstripped, hunslashed⟩ := hnames style hstyle
  exact ⟨hopens, hcloses, hnamed, hstripped, hunslashed⟩

section

variable {standard : String -> String} {style : String} {opened : List String}

/-- A tag that does not begin with a slash opens a style. -/
theorem follow_of_head {content : List Char} (h : content.head? ≠ some '/') :
    follow standard content opened =
      some (standard (String.ofList (tagName content)) :: opened) := by
  rw [follow]
  split
  · rename_i name hname
    cases content with
    | nil => cases hname
    | cons c after =>
        rw [tagName, List.takeWhile_cons] at hname
        split at hname
        · exact absurd (congrArg some (List.head_eq_of_cons_eq hname)) h
        · cases hname
  · rfl

theorem follow_open (h : IsStyle style) :
    follow standard style.toList opened = some (standard style :: opened) := by
  rw [follow_of_head h.unslashed, h.named, String.ofList_toList]

theorem follow_close (h : IsStyle style) :
    follow standard ('/' :: style.toList) opened =
      if standard style ∈ opened then some (opened.erase (standard style)) else none := by
  have hname : tagName ('/' :: style.toList) = '/' :: style.toList := by
    rw [tagName, List.takeWhile_cons_of_pos (by decide)]
    exact congrArg (List.cons '/') h.named
  rw [follow, hname]
  simp only [h.stripped]
  split
  · rename_i hempty
    have hopens := h.opens
    rw [hempty] at hopens
    cases hopens
  · rw [String.ofList_toList]

theorem openedBy_append (ps qs : List Piece) (opened : List String) :
    openedBy standard (ps ++ qs) opened =
      (openedBy standard ps opened).bind (openedBy standard qs) := by
  induction ps generalizing opened with
  | nil => rfl
  | cons p ps ih =>
      cases p with
      | char c => exact ih opened
      | tag content =>
          rw [List.cons_append, openedBy, openedBy, Option.bind_assoc]
          exact congrArg _ (funext ih)

theorem openedBy_map_char (cs : List Char) (opened : List String) :
    openedBy standard (cs.map Piece.char) opened = some opened := by
  induction cs with
  | nil => rfl
  | cons c rest ih => exact ih

theorem openedBy_backslashes (n : Nat) (opened : List String) :
    openedBy standard (backslashes n) opened = some opened := by
  rw [backslashes_eq, openedBy_map_char]

theorem toList_styled (style text : String) :
    (styled style text).toList =
      '[' :: (style.toList ++ ']' :: (text.toList ++ '[' :: (('/' :: style.toList) ++ [']']))) := by
  simp [styled]

/-- The pieces of a text in a style, and of what follows it. -/
theorem piecesFrom_styled {text : String} {front : List Piece} {pending : Nat} (h : IsStyle style)
    (hfront : Front 0 text.toList front pending) (t : List Char) :
    piecesFrom 0 0 ((styled style text).toList ++ t) =
      .tag style.toList :: (front ++ (tagPieces pending ('/' :: style.toList) ++
        piecesFrom 0 0 t)) := by
  have htext : (styled style text).toList ++ t =
      '[' :: (style.toList ++ ']' :: (text.toList ++
        '[' :: (('/' :: style.toList) ++ ']' :: t))) := by
    simp [toList_styled]
  have hopens : OpensFirst ('[' :: (('/' :: style.toList) ++ ']' :: t)) :=
    opensFirst_cons.2 (.inl rfl)
  rw [htext, piecesFrom_tag h.opens, hfront.append _ hopens, piecesFrom_tag h.closes]
  rfl

/-- A text in a style is shown as it is if it is so on its own and ends with no backslash. -/
theorem shown_styled_iff {text : String} (h : IsStyle style) (t : List Char) :
    shown (piecesFrom 0 0 ((styled style text).toList ++ t)) =
        text.toList ++ shown (piecesFrom 0 0 t) ↔
      Verbatim text.toList ∧ text.toList.getLast? ≠ some '\\' := by
  constructor
  · intro heq
    obtain ⟨front, pending, hfront⟩ := exists_front 0 text.toList
    have hpieces := congrArg shown hfront.pieces_eq
    rw [shown_append, shown_backslashes] at hpieces
    rw [piecesFrom_styled h hfront, shown_cons_tag, shown_append, shown_append,
      ← List.append_assoc] at heq
    have htext := List.append_cancel_right heq
    rw [shown_tagPieces] at htext
    obtain rfl | hpos := Nat.eq_zero_or_pos pending
    · have hshown : shown front = text.toList := by simpa using htext
      refine ⟨(verbatim_of_shown 0 ?_).2, fun hlast => ?_⟩
      · rw [hpieces, hshown]
        simp
      · exact Nat.lt_irrefl 0 (hfront.pending_pos.2 (.inr hlast))
    · -- backslashes at the end are halved, or make text of the tag behind them
      exfalso
      have hlength := congrArg List.length hpieces
      have hle := length_shown_le text.toList 0
      split at htext
      · have hlast : text.toList.getLast? = some ']' := by
          rw [← htext]
          simp [List.getLast?_append, List.getLast?_cons]
        obtain ⟨hempty, -⟩ | hslash := hfront.pending_pos.1 hpos
        · rw [hempty] at hlast
          cases hlast
        · rw [hslash] at hlast
          exact absurd (Option.some.inj hlast) (by decide)
      · have htextLength := congrArg List.length htext
        simp only [List.length_append, List.length_replicate, List.length_nil] at *
        omega
  · rintro ⟨hverbatim, hlast⟩
    rw [piecesFrom_styled h (front_of_verbatim hverbatim hlast)]
    simp [tagPieces, backslashes]

/-- Such a text in a style leaves open what was open. -/
theorem openedBy_styled {text : String} (h : IsStyle style) (hverbatim : Verbatim text.toList)
    (hlast : text.toList.getLast? ≠ some '\\') (t : List Char) :
    openedBy standard (piecesFrom 0 0 ((styled style text).toList ++ t)) opened =
      openedBy standard (piecesFrom 0 0 t) opened := by
  rw [piecesFrom_styled h (front_of_verbatim hverbatim hlast), openedBy, follow_open h,
    Option.bind_some, openedBy_append, openedBy_map_char, Option.bind_some, tagPieces_zero,
    List.singleton_append, openedBy, follow_close h, if_pos List.mem_cons_self,
    List.erase_cons_head, Option.bind_some]

theorem display?_eq_some_iff {s text : String} :
    display? standard s = some text ↔
      (openedBy standard (pieces s) []).isSome ∧ plain s = text := by
  rw [display?, Option.map_eq_some_iff]
  constructor
  · rintro ⟨opened, hopened, rfl⟩
    exact ⟨by rw [hopened]; rfl, rfl⟩
  · rintro ⟨hopened, htext⟩
    obtain ⟨opened, hopened⟩ := Option.isSome_iff_exists.1 hopened
    exact ⟨opened, hopened, htext⟩

theorem isSome_display? {s : String} :
    (display? standard s).isSome = (openedBy standard (pieces s) []).isSome := by
  rw [display?, Option.isSome_map]

theorem display?_eq_self_iff {s : String} :
    display? standard s = some s ↔ Verbatim s.toList := by
  rw [display?_eq_some_iff, plain_eq_self_iff]
  refine and_iff_right_of_imp fun hverbatim => ?_
  rw [pieces, piecesFrom_of_verbatim hverbatim 0 (.inl rfl), openedBy_append,
    openedBy_backslashes, Option.bind_some, openedBy_map_char]
  rfl

end

end Clearance.Printed
