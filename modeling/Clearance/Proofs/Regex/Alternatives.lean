import Clearance.Proofs.Regex.Expressions

/-!
# Alternatives before others

The alternatives of a text may have others behind a bar.  They are read as they are alone, up to
the end of the text, and there the others are read behind them; what comes out matches where one of
both does.
-/

namespace Clearance.Regex

/-! ## Alternatives -/

/-- A pattern with another one behind its alternatives. -/
inductive Joins (next : Node) : Node -> Node -> Prop
  | last (item : Node) : Joins next item (.alt item next)
  | more (item : Node) {rest joined : Node} (h : Joins next rest joined) :
      Joins next (.alt item rest) (.alt item joined)

namespace Joins

variable {next first joined : Node}

theorem matcher_eq (h : Joins next first joined) (flags : Flags) (s : State) (k : Continuation) :
    joined.matcher flags s k =
      (first.matcher flags s k).orElse fun _ => next.matcher flags s k := by
  induction h with
  | last item => rfl
  | more item _ ih =>
      simp only [Node.matcher, ih]
      cases item.matcher flags s k <;> rfl

theorem matchesAt_eq (h : Joins next first joined) (flags : Flags) (place : Place) :
    Pattern.matchesAt { node := joined, flags } place =
      (Pattern.matchesAt { node := first, flags } place ||
        Pattern.matchesAt { node := next, flags } place) := by
  unfold Pattern.matchesAt
  rw [h.matcher_eq]
  cases first.matcher flags { place, groups := [] } some <;> rfl

theorem isSound_eq (h : Joins next first joined) (flags : Flags) :
    joined.isSound flags = (first.isSound flags && next.isSound flags) := by
  induction h with
  | last item => rfl
  | more item _ ih => rw [Node.isSound, Node.isSound, ih, Bool.and_assoc]

end Joins

namespace Reading

variable {T : List Token} {r : Reader}

/-! ## The outermost alternatives -/

/-- What is read behind an item of the outermost alternatives. -/
def moreAlternatives (n : Nat) (item : Node) : Reading Node := do
  if <- accept '|' then
    let r <- get
    return .alt item (<- alternatives n r.flags.verbose true false)
  else return item

theorem alternatives_succ (n : Nat) (first : Bool) :
    alternatives (n + 1) false true first = items n false first [] >>= moreAlternatives n := by
  unfold alternatives
  rfl

theorem accept_of_ne {c : Char} (h : r.tokens.head? ≠ some (.plain c)) :
    accept c r = .ok (false, r) := by
  have hpeek : peek r = .ok (r.tokens.head?, r) := rfl
  unfold accept
  rw [bind_of_eq_ok hpeek, if_neg (by simpa using h)]
  rfl

theorem advance_eq {t : Token} {rest : List Token} (htokens : r.tokens = t :: rest)
    (hrest : rest.head? ≠ some .dangling) : advance r = .ok (⟨⟩, r.onto rest) := by
  have hpast : r.past = r.onto rest := by
    rw [Reader.past, htokens]
    rfl
  change guardAhead r.past = _
  rw [Setting.guardAhead_eq, hpast]
  exact if_neg hrest

theorem accept_of_head {c : Char} {rest : List Token} (htokens : r.tokens = .plain c :: rest)
    (hrest : rest.head? ≠ some .dangling) : accept c r = .ok (true, r.onto rest) := by
  have hpeek : peek r = .ok (some (.plain c), r) := by
    change Except.ok (r.tokens.head?, r) = _
    rw [htokens]
    rfl
  unfold accept
  rw [bind_of_eq_ok hpeek, if_pos (beq_self_eq_true _), bind_of_eq_ok (advance_eq htokens hrest)]
  rfl

theorem moreAlternatives_of_ne {n : Nat} {item : Node} (h : r.tokens.head? ≠ some (.plain '|')) :
    moreAlternatives n item r = .ok (item, r) :=
  bind_of_eq_ok (accept_of_ne h)

theorem moreAlternatives_of_bar {n : Nat} {item : Node} {s : Reader}
    (haccept : accept '|' r = .ok (true, s)) (hflags : s.flags = {}) :
    moreAlternatives n item r =
      (alternatives n false true false >>= fun rest => pure (Node.alt item rest)) s := by
  unfold moreAlternatives
  rw [bind_of_eq_ok haccept]
  change (alternatives n s.flags.verbose true false >>= fun rest => pure (Node.alt item rest)) s = _
  rw [hflags]

/-- Reading items leaves no more tokens than there were. -/
theorem length_le_of_items {n : Nat} {first : Bool} {node : Node} {s : Reader}
    (hflags : r.flags = {}) (h : items n false first [] r = .ok (node, s)) :
    s.tokens.length ≤ r.tokens.length := by
  have hstart : Within r.tokens r := ⟨List.suffix_refl _, hflags ▸ covered_none⟩
  exact (((keeps_expressions n).2.1 false first [] hstart).of_eq_ok h).tokens.length_le

end Reading

namespace Setting

open Reading

variable {S : Setting} {r final : Reader}

/-- Before its end, a text has the same bars as the longer text. -/
theorem accept_bar_place {bar : Bool} {s : Reader} (h : S.Inside none r) (hmore : r.tokens ≠ [])
    (haccept : accept '|' r = .ok (bar, s)) :
    accept '|' (S.place r) = .ok (bar, S.place s) ∧
      (bar = true -> S.Inside none s ∧ s.tokens.length + 1 = r.tokens.length) ∧
      (bar = false -> s = r) := by
  have hfollows : S.Follows False (accept '|') (accept '|') r fun bar s bar' =>
      bar' = bar ∧ (bar = true -> S.Inside none s ∧ s.tokens.length + 1 = r.tokens.length) ∧
        (bar = false -> s = r) :=
    follows_accept h (.inr hmore)
      (fun hhead hpast => ⟨rfl, fun _ => ⟨hpast, Reader.length_past hhead⟩, nofun⟩)
      ⟨rfl, nofun, fun _ => rfl⟩
  rcases hfollows bar s haccept with ⟨hnever, -⟩ | ⟨_, hplace, rfl, hyes, hno⟩
  · exact hnever.elim
  · exact ⟨hplace, hyes, hno⟩

/--
The outermost alternatives of a text are read from the longer text up to the end of the text; what
is read there is up to the place where it ends.
-/
theorem exists_outermost {R : Node -> Node -> Reader -> Prop} {bound n m : Nat} {first : Bool}
    (first' : Bool) {node : Node} (hfinal : final.tokens = [])
    (hend : S.Inside none final -> ∀ item l, bound ≤ l ->
      ∃ z t, moreAlternatives l (item.shift S.count) (S.place final) = .ok (z, t) ∧ R item z t)
    (halt : ∀ item rest z t, R rest z t -> R (.alt item rest) (.alt (item.shift S.count) z) t)
    (hle : n ≤ m) (hbound : bound + r.tokens.length + 1 ≤ m) (h : S.Inside none r)
    (hread : alternatives n false true first r = .ok (node, final)) :
    ∃ z t, alternatives m false true first' (S.place r) = .ok (z, t) ∧ R node z t := by
  -- Each bar takes one token and one unit of fuel, so the fuel left at the end reaches the bound.
  induction n generalizing r m first first' node with
  | zero => cases hread
  | succ n ih =>
      obtain ⟨m, rfl⟩ : ∃ m', m = m' + 1 := ⟨m - 1, by omega⟩
      rw [alternatives_succ] at hread ⊢
      obtain ⟨item, s, hitem, hmore⟩ := exists_of_bind_eq_ok hread
      have hlength := length_le_of_items h.flags hitem
      rcases (S.expressions n).items (Nat.le_of_succ_le_succ hle) h false first first' [] item s
        hitem with ⟨hnever, -⟩ | ⟨_, hitem', rfl, hs⟩
      · cases hnever
      rw [List.map_nil] at hitem'
      rw [bind_of_eq_ok hitem']
      by_cases hnil : s.tokens = []
      · rw [moreAlternatives_of_ne (by simp [hnil])] at hmore
        cases hmore
        exact hend hs node m (by omega)
      obtain ⟨bar, u, haccept, hbehind⟩ := exists_of_bind_eq_ok hmore
      obtain ⟨haccept', hyes, hno⟩ := accept_bar_place hs hnil haccept
      cases bar with
      | false =>
          cases hbehind
          exact absurd (hno rfl ▸ hfinal) hnil
      | true =>
          obtain ⟨hu, hpast⟩ := hyes rfl
          rw [moreAlternatives_of_bar haccept hu.flags] at hmore
          obtain ⟨rest, t, hrest, hnode⟩ := exists_of_bind_eq_ok hmore
          cases hnode
          obtain ⟨z, t, hz, hR⟩ := ih false (Nat.le_of_succ_le_succ hle) (by omega) hu hrest
          refine ⟨.alt (item.shift S.count) z, t, ?_, halt item rest z t hR⟩
          rw [moreAlternatives_of_bar haccept' hu.flags]
          exact bind_of_eq_ok hz

end Setting

/-! ## Texts alone -/

namespace Reading

/-- A text is a pattern of its own; its reading ends with a node and a reader. -/
structure Alone (T : List Token) (node : Node) (s : Reader) : Prop where
  head : T.head? ≠ some .dangling
  read : alternatives (2 * (T.length + 1) + 2) false true true { tokens := T } = .ok (node, s)
  tokens : s.tokens = []
  asked : ∀ index ∈ s.asked, index ≤ s.groups.length
  sound : node.isSound s.flags = true

theorem pattern_eq_ok_iff {T : List Token} {p : Pattern} {s : Reader} :
    pattern { tokens := T } = .ok (p, s) ↔
      Alone T p.node s ∧ p.flags = s.flags ∧ (s.flags.ascii && s.flags.unicode) = false := by
  constructor
  · intro h
    obtain ⟨_, r, hguard, h⟩ := exists_of_bind_eq_ok h
    rw [Setting.guardAhead_eq] at hguard
    split at hguard
    · cases hguard
    rename_i hhead
    cases hguard
    obtain ⟨n, r, hfuel, h⟩ := exists_of_bind_eq_ok h
    cases hfuel
    obtain ⟨node, s', hread, h⟩ := exists_of_bind_eq_ok h
    obtain ⟨r, s', hget, h⟩ := exists_of_bind_eq_ok h
    cases hget
    by_cases hclash : (s'.flags.ascii && s'.flags.unicode) = true
    · rw [if_pos hclash] at h
      cases h
    rw [if_neg hclash] at h
    by_cases hnil : s'.tokens.isEmpty = true
    · dsimp only at h
      rw [if_pos hnil] at h
      by_cases hasked : (s'.asked.any fun index => decide (s'.groups.length < index)) = true
      · rw [if_pos hasked] at h
        cases h
      rw [if_neg hasked] at h
      by_cases hsound : node.isSound s'.flags = true
      · rw [if_pos hsound] at h
        cases h
        refine ⟨⟨hhead, hread, List.isEmpty_iff.1 hnil, ?_, hsound⟩, rfl, by simpa using hclash⟩
        simpa using hasked
      · rw [if_neg hsound] at h
        cases h
    · dsimp only at h
      rw [if_neg hnil] at h
      cases h
  · rintro ⟨h, hflags, hclash⟩
    have hguard : guardAhead { tokens := T } = .ok (⟨⟩, { tokens := T }) := by
      rw [Setting.guardAhead_eq]
      exact if_neg h.head
    have hasked : ¬ (s.asked.any fun index => decide (s.groups.length < index)) = true := by
      simpa using h.asked
    have hfuel : fuel { tokens := T } = .ok (T.length + 1, { tokens := T }) := rfl
    have hget : (get : Reading Reader) s = .ok (s, s) := rfl
    unfold pattern
    rw [bind_of_eq_ok hguard, bind_of_eq_ok hfuel, bind_of_eq_ok h.read, bind_of_eq_ok hget,
      if_neg (by simp [hclash])]
    dsimp only
    rw [if_pos (by simp [h.tokens]), if_neg hasked, if_pos h.sound, ← hflags]
    rfl

end Reading

namespace Setting

open Reading

variable {S : Setting} {node : Node} {s : Reader} {m : Nat}

theorem inside_start (S : Setting) (hhead : S.own.head? ≠ some .dangling) :
    S.Inside none { tokens := S.own } :=
  ⟨List.suffix_refl _, rfl, rfl, hhead, id, nofun⟩

/-- The last one of joined texts is read as it is alone. -/
theorem read_last (hafter : S.after = []) (h : Alone S.own node s) (first : Bool)
    (hm : 2 * S.own.length + 4 ≤ m) :
    S.Inside none s ∧
      alternatives m false true first (S.place { tokens := S.own }) =
        .ok (node.shift S.count, S.place s) := by
  let R (node z : Node) (t : Reader) : Prop :=
    S.Inside none s ∧ z = node.shift S.count ∧ t = S.place s
  have hnil : (S.place s).tokens = [] := by simp [place, h.tokens, hafter]
  have hend (hinside : S.Inside none s) (item : Node) (l : Nat) (_ : 0 ≤ l) :
      ∃ z t, moreAlternatives l (item.shift S.count) (S.place s) = .ok (z, t) ∧ R item z t :=
    ⟨_, _, moreAlternatives_of_ne (by simp [hnil]), hinside, rfl, rfl⟩
  have halt (item rest z : Node) (t : Reader) (hrest : R rest z t) :
      R (.alt item rest) (.alt (item.shift S.count) z) t := by
    obtain ⟨hinside, rfl, rfl⟩ := hrest
    exact ⟨hinside, rfl, rfl⟩
  have hbound : 0 + S.own.length + 1 ≤ m := by omega
  obtain ⟨_, _, hread, hinside, rfl, rfl⟩ :=
    exists_outermost first h.tokens hend halt (by omega) hbound (S.inside_start h.head) h.read
  exact ⟨hinside, hread⟩

/-- A text before others is read as it is alone, and the others behind its bar. -/
theorem exists_read_next {Q : Node -> Reader -> Prop} {rest : List Token} {bound : Nat}
    (hafter : S.after = .plain '|' :: rest) (hrest : rest.head? ≠ some .dangling)
    (h : Alone S.own node s) (first : Bool) (hm : 2 * S.own.length + 4 ≤ m)
    (hbound : bound + S.own.length + 1 ≤ m)
    (hnext : S.Inside none s -> ∀ l, bound ≤ l -> ∃ next t,
      alternatives l false true false ((S.place s).onto rest) = .ok (next, t) ∧ Q next t) :
    ∃ z next t, alternatives m false true first (S.place { tokens := S.own }) = .ok (z, t) ∧
      Joins next (node.shift S.count) z ∧ Q next t := by
  let R (node z : Node) (t : Reader) : Prop :=
    ∃ next, Joins next (node.shift S.count) z ∧ Q next t
  have htokens : (S.place s).tokens = .plain '|' :: rest := by simp [place, h.tokens, hafter]
  have hend (hinside : S.Inside none s) (item : Node) (l : Nat) (hl : bound ≤ l) :
      ∃ z t, moreAlternatives l (item.shift S.count) (S.place s) = .ok (z, t) ∧ R item z t := by
    obtain ⟨next, t, hread, hQ⟩ := hnext hinside l hl
    refine ⟨.alt (item.shift S.count) next, t, ?_, next, .last _, hQ⟩
    rw [moreAlternatives_of_bar (accept_of_head htokens hrest) hinside.flags]
    exact bind_of_eq_ok hread
  have halt (item rest z : Node) (t : Reader) (hrest : R rest z t) :
      R (.alt item rest) (.alt (item.shift S.count) z) t := by
    obtain ⟨next, hjoins, hQ⟩ := hrest
    exact ⟨next, .more _ hjoins, hQ⟩
  obtain ⟨z, t, hread, next, hjoins, hQ⟩ :=
    exists_outermost first h.tokens hend halt (by omega) hbound (S.inside_start h.head) h.read
  exact ⟨z, next, t, hread, hjoins, hQ⟩

end Setting

end Clearance.Regex
