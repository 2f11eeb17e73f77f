import Clearance.Proofs.Regex.Joined

/-!
# Literal patterns

A text without special characters is a pattern for itself.  Its tokens are its characters, it is
read as a sequence of them, and it is found in the texts that hold it.
-/

namespace Clearance.Regex

/-- The characters that do not stand for themselves in every place of a pattern. -/
def specialChars : List Char :=
  ['\\', '.', '^', '$', '*', '+', '?', '\x7b', '\x7d', '[', ']', '|', '(', ')']

/-- No character is special. -/
def Literal (cs : List Char) : Prop :=
  ∀ c ∈ cs, c ∉ specialChars

variable {c : Char} {cs : List Char}

theorem Literal.head (h : Literal (c :: cs)) : c ∉ specialChars :=
  h c List.mem_cons_self

theorem Literal.tail (h : Literal (c :: cs)) : Literal cs :=
  fun d hd => h d (List.mem_cons_of_mem c hd)

theorem ne_of_not_special {d : Char} (h : c ∉ specialChars) (hd : d ∈ specialChars) : c ≠ d :=
  fun heq => h (heq ▸ hd)

theorem tokenize_literal (h : Literal cs) : tokenize cs = cs.map .plain := by
  induction cs with
  | nil => rfl
  | cons c rest ih =>
      rw [tokenize_cons_of_ne (ne_of_not_special h.head (by decide)), ih h.tail]
      rfl

/-- The node of a text that stands for itself. -/
def literalNode (cs : List Char) : Node :=
  Reading.sequence (cs.map fun c => .code c.toNat)

theorem isSound_literalNode (flags : Flags) (cs : List Char) :
    (literalNode cs).isSound flags = true := by
  induction cs with
  | nil => rfl
  | cons c rest ih => exact ih

/-! ## Reading -/

namespace Reading

variable {r : Reader}

theorem head?_map_plain (cs : List Char) : (cs.map Token.plain).head? ≠ some .dangling := by
  cases cs with
  | nil => exact nofun
  | cons c rest => exact nofun

/-- A character that is not special is an item of its own. -/
theorem items_cons {n : Nat} {first : Bool} {acc : List Node} (hc : c ∉ specialChars)
    (htokens : r.tokens = .plain c :: cs.map .plain) :
    items (n + 1) false first acc r =
      items n false first (.code c.toNat :: acc) (r.onto (cs.map .plain)) := by
  have hahead : r.tokens.head? = some (.plain c) := by
    rw [htokens]
    rfl
  have hpeek : peek r = .ok (r.tokens.head?, r) := rfl
  have hne (d : Char) (hd : d ∈ specialChars) : c ≠ d := ne_of_not_special hc hd
  have hread : items (n + 1) false first acc r =
      (advance >>= fun _ => items n false first (.code c.toNat :: acc)) r := by
    rw [items, bind_of_eq_ok hpeek]
    refine congrFun ?_ r
    split
    all_goals rename_i heq
    all_goals cases hahead.symm.trans heq
    · exact absurd rfl (hne '|' (by decide))
    · exact absurd rfl (hne ')' (by decide))
    · have hrepeats : ¬ (c = '*' || c = '+' || c = '?' || c = '\x7b') = true := by
        simp [hne '*' (by decide), hne '+' (by decide), hne '?' (by decide), hne '\x7b' (by decide)]
      rw [Bool.false_and, Bool.false_and, if_neg Bool.false_ne_true, if_neg Bool.false_ne_true,
        if_neg (hne '[' (by decide)), if_neg (hne '.' (by decide)), if_neg (hne '^' (by decide)),
        if_neg (hne '$' (by decide)), if_neg hrepeats, if_neg (hne '(' (by decide))]
  rw [hread, bind_of_eq_ok (advance_eq htokens (head?_map_plain cs))]

/-- Characters that are not special are read as a sequence up to the end. -/
theorem items_literal {n : Nat} {first : Bool} {acc : List Node} (h : Literal cs)
    (htokens : r.tokens = cs.map .plain) (hn : cs.length < n) :
    items n false first acc r =
      .ok (sequence (acc.reverse ++ cs.map fun c => .code c.toNat), r.onto []) := by
  induction cs generalizing n acc r with
  | nil =>
      obtain ⟨m, rfl⟩ := Nat.exists_eq_add_one.2 hn
      have hend : r.onto [] = r := by
        rw [← List.map_nil, ← htokens]
        rfl
      have hpeek : peek r = .ok (none, r) := by
        change Except.ok (r.tokens.head?, r) = _
        rw [htokens]
        rfl
      rw [items, bind_of_eq_ok hpeek, hend, List.map_nil, List.append_nil]
      rfl
  | cons c rest ih =>
      obtain ⟨m, rfl⟩ := Nat.exists_eq_add_one.2 (Nat.zero_lt_of_lt hn)
      rw [items_cons h.head htokens, ih h.tail rfl (Nat.lt_of_succ_lt_succ hn)]
      simp [Reader.onto]

theorem alone_literal (h : Literal cs) :
    Alone (cs.map .plain) (literalNode cs) { tokens := [] } where
  head := head?_map_plain cs
  read := by
    have hfuel : cs.length < 2 * ((cs.map Token.plain).length + 1) + 1 := by
      rw [List.length_map]
      omega
    have hitems := @items_literal _ { tokens := cs.map .plain } _ true [] h rfl hfuel
    rw [alternatives_succ, bind_of_eq_ok hitems]
    exact moreAlternatives_of_ne nofun
  tokens := rfl
  asked := nofun
  sound := isSound_literalNode _ cs

end Reading

/-- A text without special characters is read as the sequence of its characters. -/
theorem parse_literal {v : String} (h : Literal v.toList) :
    parse v = .ok { node := literalNode v.toList, flags := {} } := by
  have halone := Reading.alone_literal h
  rw [← tokenize_literal h] at halone
  exact halone.parse_eq rfl

/-! ## Searching -/

theorem codeTest_iff {c d : Char} : codeTest {} c.toNat d = true ↔ c = d := by
  have hvariants : variants {} d = [d] := rfl
  simp only [codeTest, Member.holds, hvariants, List.any_cons, List.any_nil, Bool.or_false,
    beq_iff_eq]
  exact ⟨fun h => (Char.toNat_inj.1 h).symm, fun h => h ▸ rfl⟩

/-- A sequence of characters matches where they come next. -/
theorem matcher_literalNode (cs : List Char) (s : State) :
    ((literalNode cs).matcher {} s some).isSome = true ↔ cs <+: s.place.after := by
  induction cs generalizing s with
  | nil => exact ⟨fun _ => List.nil_prefix, fun _ => rfl⟩
  | cons c rest ih =>
      obtain ⟨⟨position, before, after⟩, groups⟩ := s
      cases after with
      | nil => exact ⟨nofun, fun h => absurd h.length_le (by simp)⟩
      | cons d after =>
          have hone : (literalNode (c :: rest)).matcher {}
              { place := { position, before, after := d :: after }, groups } some =
              if codeTest {} c.toNat d then (literalNode rest).matcher {}
                { place := { position := position + 1, before := d :: before, after }, groups } some
              else none := rfl
          rw [hone, List.cons_prefix_cons]
          by_cases hcd : c = d
          · rw [if_pos (codeTest_iff.2 hcd), ih]
            exact (and_iff_right hcd).symm
          · rw [if_neg (mt codeTest_iff.1 hcd)]
            exact ⟨nofun, fun h => absurd h.1 hcd⟩

/-- A text without special characters is found in the texts that hold it. -/
theorem search_literalNode (cs : List Char) (text : String) :
    Pattern.search { node := literalNode cs, flags := {} } text = true ↔ cs <:+: text.toList := by
  have hmatches (place : Place) :
      Pattern.matchesAt { node := literalNode cs, flags := {} } place = true ↔ cs <+: place.after :=
    matcher_literalNode cs { place, groups := [] }
  have hfrom (position : Nat) (before after : List Char) :
      Pattern.searchFrom { node := literalNode cs, flags := {} } position before after = true ↔
        cs <:+: after := by
    induction after generalizing position before with
    | nil => rw [Pattern.searchFrom, hmatches, List.prefix_nil, List.infix_nil]
    | cons c rest ih => rw [Pattern.searchFrom, Bool.or_eq_true, hmatches, ih, List.infix_cons_iff]
  exact hfrom 0 [] text.toList

/-! ## Options -/

/-- Options without special characters keep apart. -/
theorem separate_literals {options : List String} (h : ∀ v ∈ options, Literal v.toList) :
    Separate options := by
  have hplain {v : String} (hv : v ∈ options) {t : Token} (ht : t ∈ tokensOf v) :
      ∃ c ∈ v.toList, t = .plain c := by
    rw [tokensOf, tokenize_literal (h v hv)] at ht
    obtain ⟨c, hc, rfl⟩ := List.mem_map.1 ht
    exact ⟨c, hc, rfl⟩
  refine .of_plain (fun v hv => ?_) (fun v hv hshown => ?_) fun v hv t ht => ?_
  · rw [parse_literal (h v hv)]
    rfl
  · obtain ⟨c, hc, heq⟩ := hplain hv (hshown.subset List.mem_cons_self)
    cases heq
    exact h v hv '(' hc (by decide)
  · obtain ⟨c, -, rfl⟩ := hplain (List.mem_of_mem_tail hv) ht
    rfl

/-- Options without special characters are found, as one pattern, where one of them is held. -/
theorem exists_parse_literals {options : List String} (hsome : options ≠ [])
    (h : ∀ v ∈ options, Literal v.toList) :
    ∃ p, parse ("|".intercalate options) = .ok p ∧ ∀ text : String, p.search text = true ↔
      ∃ v ∈ options, v.toList <:+: text.toList := by
  obtain ⟨p, hparse, hsearch⟩ := exists_parse_joined hsome (separate_literals h)
  refine ⟨p, hparse, fun text => (hsearch text).trans (exists_congr fun v => ?_)⟩
  refine and_congr_right fun hv => ?_
  rw [parse_literal (h v hv), ← search_literalNode]
  constructor
  · rintro ⟨q, ⟨⟩, hfound⟩
    exact hfound
  · exact fun hfound => ⟨_, rfl, hfound⟩

end Clearance.Regex
