import Clearance.Proofs.Regex.Alternatives

/-!
# Patterns joined by bars

Patterns are joined into one by bars between them.  Each of them is then read behind the groups of
those before it, and the whole matches where one of them does, as long as they keep apart: none of
them sets options for the whole pattern, no two have a name in common, and none speaks of groups by
their numbers behind another one that has groups.
-/

namespace Clearance.Regex

/-! ## Texts that keep apart -/

/-- The tokens of a text. -/
def tokensOf (text : String) : List Token :=
  tokenize text.toList

/-- The number of groups that a pattern opens. -/
def groupCount (text : String) : Nat :=
  match Reading.pattern { tokens := tokensOf text } with
  | .ok (_, r) => r.groups.length
  | .error _ => 0

/--
Patterns that each mean the same when they are joined by bars: they set no options for the whole
pattern, share no names, and do not speak of groups by their numbers behind one that has groups.
-/
structure Separate (options : List String) : Prop where
  patterns : ∀ v ∈ options, ∃ p, parse v = .ok p
  optionless : ∀ v ∈ options, ∀ letter, ¬ Sets (tokensOf v) letter
  names : options.Pairwise fun v w => ∀ name, Names (tokensOf v) name -> ¬ Names (tokensOf w) name
  numbers : options.Pairwise fun v w => groupCount v = 0 ∨ ¬ Numbers (tokensOf w)

theorem Separate.tail {v : String} {rest : List String} (h : Separate (v :: rest)) :
    Separate rest where
  patterns := (List.forall_mem_cons.1 h.patterns).2
  optionless := (List.forall_mem_cons.1 h.optionless).2
  names := h.names.of_cons
  numbers := h.numbers.of_cons

/-- A digit behind a backslash. -/
def Token.isNumber : Token -> Bool
  | .escaped c => c.isDigit
  | _ => false

/-- Without groups of the kind that a question mark opens, only numbers behind the first matter. -/
theorem Separate.of_plain {options : List String} (hpatterns : ∀ v ∈ options, (parse v).isOk = true)
    (hplain : ∀ v ∈ options, ¬ [.plain '(', .plain '?'] <:+: tokensOf v)
    (hnumbers : ∀ v ∈ options.tail, ∀ t ∈ tokensOf v, t.isNumber = false) :
    Separate options := by
  have hopens {v : String} (hv : v ∈ options) (behind : List Token) :
      ¬ .plain '(' :: .plain '?' :: behind <:+: tokensOf v := fun hshown =>
    hplain v hv (List.IsInfix.trans ⟨[], behind, rfl⟩ hshown)
  refine ⟨fun v hv => ?_, ?_, ?_, ?_⟩
  · have hpattern := hpatterns v hv
    cases hparse : parse v with
    | ok p => exact ⟨p, rfl⟩
    | error fault =>
        rw [hparse] at hpattern
        cases hpattern
  · rintro v hv letter ⟨letters, -, -, hshown⟩
    exact hopens hv _ hshown
  · rw [List.pairwise_iff_forall_sublist]
    rintro v w hpair name ⟨between, -, hshown⟩
    exact absurd hshown (hopens (hpair.subset List.mem_cons_self) _)
  · rw [List.pairwise_iff_forall_sublist]
    rintro v w hpair
    refine .inr ?_
    rintro (⟨hdigit, -, -, hshown⟩ | ⟨-, hshown⟩)
    · have hnumber := hnumbers w (hpair.tail.subset List.mem_cons_self) _
        (hshown.subset List.mem_cons_self)
      exact absurd hdigit (Bool.eq_false_iff.1 hnumber)
    · exact hopens (hpair.subset (List.mem_cons_of_mem _ List.mem_cons_self)) _ hshown

theorem parse_eq_ok_iff {text : String} {p : Pattern} :
    parse text = .ok p ↔ ∃ s, Reading.pattern { tokens := tokensOf text } = .ok (p, s) := by
  change (Reading.pattern { tokens := tokensOf text }).map Prod.fst = _ ↔ _
  cases Reading.pattern { tokens := tokensOf text } with
  | error fault => exact ⟨nofun, nofun⟩
  | ok result =>
      constructor
      · rintro ⟨⟩
        exact ⟨result.2, rfl⟩
      · rintro ⟨s, ⟨⟩⟩
        rfl

theorem tokenize_cons_of_ne {c : Char} (hc : c ≠ '\\') (rest : List Char) :
    tokenize (c :: rest) = .plain c :: tokenize rest :=
  tokenize.eq_4 c rest (fun heq => absurd heq hc) fun _ _ heq => absurd heq hc

theorem tokenize_append_bar {cs : List Char} (ds : List Char) (h : .dangling ∉ tokenize cs) :
    tokenize (cs ++ '|' :: ds) = tokenize cs ++ .plain '|' :: tokenize ds := by
  induction cs using tokenize.induct with
  | case1 => rfl
  | case2 => exact absurd (List.mem_singleton_self _) h
  | case3 c rest ih =>
      have htail := ih fun hmem => h (List.mem_cons_of_mem _ hmem)
      exact congrArg (Token.escaped c :: ·) htail
  | case4 c rest hlone hpair ih =>
      have hc : c ≠ '\\' := by
        rintro rfl
        cases rest with
        | nil => exact hlone rfl rfl
        | cons d ds => exact hpair d ds rfl rfl
      rw [tokenize_cons_of_ne hc] at h ⊢
      rw [List.cons_append, tokenize_cons_of_ne hc, ih fun hmem => h (List.mem_cons_of_mem _ hmem)]
      rfl

/-- The text that joins options by bars. -/
theorem tokensOf_joined {v : String} (w : String) (rest : List String)
    (h : .dangling ∉ tokensOf v) :
    tokensOf ("|".intercalate (v :: w :: rest)) =
      tokensOf v ++ .plain '|' :: tokensOf ("|".intercalate (w :: rest)) := by
  unfold tokensOf at h ⊢
  rw [String.intercalate_cons_cons, String.toList_append, String.toList_append, List.append_assoc]
  exact tokenize_append_bar _ h

/-- A reader before options, behind others that they keep apart from. -/
structure Ready (options : List String) (start : Reader) : Prop where
  flags : start.flags = {}
  behind : start.behind = none
  unnamed : ∀ v ∈ options, ∀ name, Names (tokensOf v) name -> start.names.lookup name = none
  unnumbered : start.groups = [] ∨ ∀ v ∈ options, ¬ Numbers (tokensOf v)
  asked : ∀ index ∈ start.asked, index ≤ start.groups.length

/-- An option as a part of the text that joins it with others. -/
def Ready.setting {v : String} {rest : List String} {start : Reader}
    (h : Ready (v :: rest) start) (hseparate : Separate (v :: rest)) (after : List Token)
    (ends : ∀ t, after.head? = some t -> t = .plain '|') : Setting where
  own := tokensOf v
  after
  groups := start.groups
  names := start.names
  asked := start.asked
  ends
  optionless := hseparate.optionless v List.mem_cons_self
  unnamed := h.unnamed v List.mem_cons_self
  unnumbered := h.unnumbered.imp_right fun hnone => hnone v List.mem_cons_self

theorem Ready.place_eq {v : String} {rest : List String} {start : Reader}
    (h : Ready (v :: rest) start) (hseparate : Separate (v :: rest)) (after : List Token)
    (ends : ∀ t, after.head? = some t -> t = .plain '|') :
    (h.setting hseparate after ends).place { tokens := tokensOf v } =
      start.onto (tokensOf v ++ after) := by
  obtain ⟨tokens, flags, groups, names, behind, asked⟩ := start
  obtain rfl : flags = {} := h.flags
  obtain rfl : behind = none := h.behind
  simp [Setting.place, Ready.setting, Reader.onto]

/-- A pattern that matches where one of the options does, and the reader it is read up to. -/
structure ReadsAny (options : List String) (node : Node) (t : Reader) : Prop where
  tokens : t.tokens = []
  flags : t.flags = {}
  asked : ∀ index ∈ t.asked, index ≤ t.groups.length
  sound : node.isSound {} = true
  matches_iff : ∀ place, Pattern.matchesAt { node, flags := {} } place = true ↔
    ∃ v ∈ options, ∃ p, parse v = .ok p ∧ p.matchesAt place = true

section

open Reading

variable {v : String} {rest : List String} {node : Node} {start s : Reader}

/-- A text with nothing before it and nothing behind it. -/
def Setting.alone (v : String) (hoptionless : ∀ letter, ¬ Sets (tokensOf v) letter) : Setting where
  own := tokensOf v
  after := []
  groups := []
  names := []
  asked := []
  ends := nofun
  optionless := hoptionless
  unnamed := fun _ _ => rfl
  unnumbered := .inl rfl

theorem Reading.Alone.inside (h : Alone (tokensOf v) node s)
    (hoptionless : ∀ letter, ¬ Sets (tokensOf v) letter) :
    (Setting.alone v hoptionless).Inside none s :=
  (Setting.read_last rfl h true (Nat.le_refl _)).1

theorem Reading.Alone.notMem_dangling (h : Alone (tokensOf v) node s)
    (hoptionless : ∀ letter, ¬ Sets (tokensOf v) letter) : .dangling ∉ tokensOf v := by
  intro hmem
  have hahead := (h.inside hoptionless).dangling hmem
  rw [h.tokens] at hahead
  cases hahead

theorem Separate.alone (h : Separate (v :: rest)) :
    ∃ node s, Alone (tokensOf v) node s ∧ s.flags = {} ∧ groupCount v = s.groups.length := by
  obtain ⟨p, hp⟩ := h.patterns v List.mem_cons_self
  obtain ⟨s, hp⟩ := parse_eq_ok_iff.1 hp
  have halone := (pattern_eq_ok_iff.1 hp).1
  refine ⟨p.node, s, halone, ?_, by rw [groupCount, hp]⟩
  exact (halone.inside (h.optionless v List.mem_cons_self)).flags

variable {S : Setting}

/-- The groups asked about are there, behind the groups of others too. -/
theorem Reading.Alone.asked_place (h : Alone S.own node s)
    (hasked : ∀ index ∈ S.asked, index ≤ S.groups.length) :
    ∀ index ∈ (S.place s).asked, index ≤ (S.place s).groups.length := by
  intro index hmem
  change index ≤ (S.groups ++ s.groups).length
  rw [List.length_append]
  rcases List.mem_append.1 hmem with hown | hbefore
  · exact Nat.le_add_left_of_le (h.asked index hown)
  · exact Nat.le_add_right_of_le (hasked index hbefore)

theorem lookup_eq_none {entries : List (String × Nat)} {name : String}
    (h : ∀ entry ∈ entries, entry.1 ≠ name) : entries.lookup name = none := by
  rw [List.lookup_eq_none_iff]
  intro entry hmem
  simpa using fun heq => h entry hmem heq.symm

/-- Behind an option the reader is ready for the next ones. -/
theorem Ready.next (h : Ready (v :: rest) start) (hseparate : Separate (v :: rest))
    {after : List Token} {ends : ∀ t, after.head? = some t -> t = .plain '|'}
    (halone : Alone (tokensOf v) node s) (hcount : groupCount v = s.groups.length)
    (hinside : (h.setting hseparate after ends).Inside none s) (tokens : List Token) :
    Ready rest (((h.setting hseparate after ends).place s).onto tokens) where
  flags := hinside.flags
  behind := by
    change s.behind.map _ = none
    rw [hinside.behind]
    rfl
  unnamed := by
    intro w hw name hname
    have hfresh : s.names.lookup name = none := by
      refine lookup_eq_none fun entry hmem heq => ?_
      have hshown : Names (tokensOf v) entry.1 := hinside.names entry hmem
      exact (List.pairwise_cons.1 hseparate.names).1 w hw name (heq ▸ hshown) hname
    change ((h.setting hseparate after ends).place s).names.lookup name = none
    rw [Setting.lookup_place, hfresh]
    exact h.unnamed w (List.mem_cons_of_mem _ hw) name hname
  unnumbered := by
    change start.groups ++ s.groups = [] ∨ _
    have hnumbers := (List.pairwise_cons.1 hseparate.numbers).1
    -- An alternative that opens groups forbids numbers in all that follow it; one that opens
    -- none leaves the count as it was.
    by_cases hgroups : s.groups = []
    · rw [hgroups, List.append_nil]
      exact h.unnumbered.imp_right fun hnone w hw => hnone w (List.mem_cons_of_mem _ hw)
    · refine .inr fun w hw => (hnumbers w hw).resolve_left ?_
      rwa [hcount, List.length_eq_zero_iff]
  asked := Alone.asked_place (S := h.setting hseparate after ends) halone h.asked

theorem Reading.Alone.parse_eq (h : Alone (tokensOf v) node s) (hflags : s.flags = {}) :
    parse v = .ok { node, flags := {} } :=
  parse_eq_ok_iff.2 ⟨s, pattern_eq_ok_iff.2 ⟨h, hflags.symm, by rw [hflags]; rfl⟩⟩

theorem Reading.Alone.matchesAt_iff (h : Alone (tokensOf v) node s) (hflags : s.flags = {})
    (place : Place) :
    Pattern.matchesAt { node, flags := {} } place = true ↔
      ∃ p, parse v = .ok p ∧ p.matchesAt place = true := by
  have hparse := h.parse_eq hflags
  constructor
  · exact fun hmatches => ⟨_, hparse, hmatches⟩
  · rintro ⟨p, hp, hmatches⟩
    cases hparse.symm.trans hp
    exact hmatches

theorem Separate.head?_joined (h : Separate (v :: rest)) :
    (tokensOf ("|".intercalate (v :: rest))).head? ≠ some .dangling := by
  obtain ⟨node, s, halone, -⟩ := h.alone
  cases rest with
  | nil =>
      rw [String.intercalate_singleton]
      exact halone.head
  | cons w rest =>
      rw [tokensOf_joined w rest
        (halone.notMem_dangling (h.optionless v List.mem_cons_self)), List.head?_append]
      cases hhead : (tokensOf v).head? with
      | none => exact nofun
      | some t => exact fun heq => halone.head (hhead.trans heq)

/-- The last option is read behind others up to the end. -/
theorem exists_read_last (hseparate : Separate [v]) (hready : Ready [v] start) {m : Nat}
    (first : Bool) (hm : 2 * (tokensOf v).length + 4 ≤ m) :
    ∃ node t, alternatives m false true first (start.onto (tokensOf v)) = .ok (node, t) ∧
      ReadsAny [v] node t := by
  obtain ⟨node, s, halone, hflags, -⟩ := hseparate.alone
  let S : Setting := hready.setting hseparate [] nofun
  have hplace : S.place { tokens := tokensOf v } = start.onto (tokensOf v) := by
    rw [hready.place_eq hseparate, List.append_nil]
  have hread := (S.read_last rfl halone first hm).2
  refine ⟨node.shift S.count, S.place s, hplace ▸ hread, ?_⟩
  refine ⟨?_, hflags, halone.asked_place hready.asked, ?_, fun place => ?_⟩
  · exact (List.append_nil _).trans halone.tokens
  · rw [Node.isSound_shift, ← hflags]
    exact halone.sound
  · rw [matchesAt_shift, halone.matchesAt_iff hflags]
    simp only [List.mem_singleton, exists_eq_left]

/-- An option is read behind others and before the next ones, if these can be read behind it. -/
theorem exists_read_before {w : String} (hseparate : Separate (v :: w :: rest))
    (hready : Ready (v :: w :: rest) start) {m : Nat} (first : Bool)
    (hm : 2 * (tokensOf ("|".intercalate (v :: w :: rest))).length + 4 ≤ m)
    (hnext : ∀ start, Ready (w :: rest) start ->
      ∀ l, 2 * (tokensOf ("|".intercalate (w :: rest))).length + 4 ≤ l ->
        ∃ next t, alternatives l false true false
            (start.onto (tokensOf ("|".intercalate (w :: rest)))) = .ok (next, t) ∧
          ReadsAny (w :: rest) next t) :
    ∃ node t, alternatives m false true first
        (start.onto (tokensOf ("|".intercalate (v :: w :: rest)))) = .ok (node, t) ∧
      ReadsAny (v :: w :: rest) node t := by
  obtain ⟨node, s, halone, hflags, hcount⟩ := hseparate.alone
  have htokens := tokensOf_joined w rest
    (halone.notMem_dangling (hseparate.optionless v List.mem_cons_self))
  have hends (t : Token)
      (ht : (.plain '|' :: tokensOf ("|".intercalate (w :: rest))).head? = some t) :
      t = .plain '|' :=
    (Option.some.inj ht).symm
  let S : Setting := hready.setting hseparate _ hends
  have hown : S.own.length = (tokensOf v).length := rfl
  rw [htokens, List.length_append, List.length_cons] at hm
  rw [htokens, ← hready.place_eq hseparate _ hends]
  have hbound : 2 * (tokensOf ("|".intercalate (w :: rest))).length + 4 + S.own.length + 1 ≤ m := by
    omega
  obtain ⟨z, next, t, hread, hjoins, hany⟩ := S.exists_read_next rfl hseparate.tail.head?_joined
    halone first (by omega) hbound
    fun hinside => hnext _ (hready.next hseparate halone hcount hinside _)
  refine ⟨z, t, hread, hany.tokens, hany.flags, hany.asked, ?_, fun place => ?_⟩
  · rw [hjoins.isSound_eq, Node.isSound_shift, hany.sound, ← hflags, halone.sound]
    rfl
  · rw [hjoins.matchesAt_eq, matchesAt_shift, Bool.or_eq_true,
      halone.matchesAt_iff hflags, hany.matches_iff]
    simp only [List.mem_cons, exists_eq_or_imp]

/-- Joined options are read behind others up to the end, and match where one of them does. -/
theorem exists_joined {options : List String} (hsome : options ≠ []) (hseparate : Separate options)
    (hready : Ready options start) {m : Nat} (first : Bool)
    (hm : 2 * (tokensOf ("|".intercalate options)).length + 4 ≤ m) :
    ∃ node t, alternatives m false true first
        (start.onto (tokensOf ("|".intercalate options))) = .ok (node, t) ∧
      ReadsAny options node t := by
  induction options generalizing start m first with
  | nil => exact absurd rfl hsome
  | cons v rest ih =>
      cases rest with
      | nil =>
          rw [String.intercalate_singleton] at hm ⊢
          exact exists_read_last hseparate hready first hm
      | cons w rest =>
          exact exists_read_before hseparate hready first hm fun start hstart l hl =>
            ih nofun hseparate.tail hstart false hl

end

/-! ## Searching -/

/-- What matches where one of several patterns does is found where one of them is. -/
theorem search_iff {p : Pattern} {Q : Pattern -> Prop}
    (h : ∀ place, p.matchesAt place = true ↔ ∃ q, Q q ∧ q.matchesAt place = true)
    (text : String) : p.search text = true ↔ ∃ q, Q q ∧ q.search text = true := by
  have hfrom (position : Nat) (before after : List Char) :
      p.searchFrom position before after = true ↔
        ∃ q, Q q ∧ q.searchFrom position before after = true := by
    induction after generalizing position before with
    | nil => exact h _
    | cons c rest ih =>
        simp only [Pattern.searchFrom, Bool.or_eq_true, h, ih, and_or_left, exists_or]
  exact hfrom 0 [] text.toList

/-- Patterns that keep apart are joined into one that is found where one of them is. -/
theorem exists_parse_joined {options : List String} (hsome : options ≠ [])
    (hseparate : Separate options) :
    ∃ p, parse ("|".intercalate options) = .ok p ∧ ∀ text, p.search text = true ↔
      ∃ v ∈ options, ∃ q, parse v = .ok q ∧ q.search text = true := by
  let start : Reader := { tokens := tokensOf ("|".intercalate options) }
  have hready : Ready options start :=
    ⟨rfl, rfl, fun _ _ _ _ => rfl, .inl rfl, nofun⟩
  obtain ⟨node, t, hread, hany⟩ :=
    exists_joined hsome hseparate hready true (Nat.le_refl _)
  have hhead : start.tokens.head? ≠ some .dangling := by
    cases options with
    | nil => exact absurd rfl hsome
    | cons v rest => exact hseparate.head?_joined
  have halone : Reading.Alone (tokensOf ("|".intercalate options)) node t :=
    ⟨hhead, hread, hany.tokens, hany.asked, hany.flags ▸ hany.sound⟩
  refine ⟨_, halone.parse_eq hany.flags, fun text => ?_⟩
  rw [search_iff (Q := fun q => ∃ v ∈ options, parse v = .ok q)]
  · constructor
    · rintro ⟨q, ⟨v, hv, hq⟩, hfound⟩
      exact ⟨v, hv, q, hq, hfound⟩
    · rintro ⟨v, hv, q, hq, hfound⟩
      exact ⟨q, ⟨v, hv, hq⟩, hfound⟩
  · intro place
    rw [hany.matches_iff]
    constructor
    · rintro ⟨v, hv, q, hq, hmatches⟩
      exact ⟨q, ⟨v, hv, hq⟩, hmatches⟩
    · rintro ⟨q, ⟨v, hv, hq⟩, hmatches⟩
      exact ⟨v, hv, q, hq, hmatches⟩

end Clearance.Regex
