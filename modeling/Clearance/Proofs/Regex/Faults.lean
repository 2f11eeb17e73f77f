import Clearance.Proofs.Regex.Readings

/-!
# Why a text is no pattern

Counts are read only between braces, and options of the whole pattern only from groups of letters.
So a text in which no count is too large and no groups ask for both coverages of scripts is a
pattern, or it is malformed.
-/

namespace Clearance.Regex

namespace Reading

variable {T : List Token} {r : Reader}

/-! ## Repetition -/

/-- A count that the tokens show is read, or excused by them. -/
theorem gives_count {digits : List Char} {Q : Nat -> Reader -> Prop} (hshown : Counts T digits)
    (h : Q (number 10 digits) r) : Gives T (count digits) r Q := by
  unfold count
  split
  · rename_i hlong
    exact gives_bind (gives_throw (.tooLong hshown hlong))
  · dsimp only
    split
    · rename_i hlarge
      exact gives_bind (gives_throw (.tooLarge hshown hlarge))
    · exact gives_pure h

/-- The end of bounds in braces, where both of them have been taken. -/
def boundsEnd (start : Reader) (low high : List Char) :
    Reading (Option (Nat × Option Nat)) := do
  if !(<- accept '\x7d') then
    set start
    return none
  let least <- if low.isEmpty then pure 0 else count low
  if high.isEmpty then return some (least, none)
  let most <- count high
  if most < least then malformed
  return some (least, some most)

theorem keeps_boundsEnd {start : Reader} {low high : List Char} (hstart : Within T start)
    (h : Within T r)
    (hshown : r.tokens.head? = some (.plain '\x7d') -> Counts T low ∧ Counts T high) :
    Gives T (boundsEnd start low high) r fun _ r' => Within T r' := by
  unfold boundsEnd
  refine gives_bind (gives_accept (fun hbrace => ?_) (gives_bind (gives_set (gives_pure hstart))))
  obtain ⟨hlow, hhigh⟩ := hshown hbrace
  have hmost (least : Nat) : Gives T (do
      if high.isEmpty then return some (least, none)
      let most <- count high
      if most < least then malformed
      return some (least, some most)) r.past fun _ r' => Within T r' := by
    split
    · exact gives_pure h.past
    · refine gives_bind (gives_count hhigh ?_)
      split
      · exact gives_bind gives_malformed
      · exact gives_pure h.past
  dsimp only [Bool.not_true]
  split
  · contradiction
  · split
    · exact gives_bind (gives_pure (hmost 0))
    · exact gives_bind (gives_count hlow (hmost _))

/-- What stands behind an opening brace stands between braces if a closing one comes next. -/
theorem isInfix_braces {body rest : List Token} (hbrace : .plain '\x7b' :: r.tokens <:+ T)
    (htokens : r.tokens = body ++ rest) (hclose : rest.head? = some (.plain '\x7d')) :
    .plain '\x7b' :: body ++ [.plain '\x7d'] <:+: T := by
  obtain ⟨front, rfl⟩ := hbrace
  obtain ⟨behind, rfl⟩ := List.head?_eq_some_iff.1 hclose
  exact ⟨front, behind, by simp [htokens]⟩

theorem keeps_bounds? (h : Within T r) (hbrace : .plain '\x7b' :: r.tokens <:+ T) :
    Gives T bounds? r fun _ r' => Within T r' := by
  unfold bounds?
  refine gives_bind (gives_get (gives_bind (gives_peek ?_)))
  split
  · exact gives_pure h
  · dsimp only
    refine gives_bind (gives_fuel (gives_bind (gives_takeUpTo fun low rest hlow hrest => ?_)))
    have hwithin : Within T (r.onto rest) := h.onto (hrest ▸ List.suffix_append _ _)
    refine gives_bind (gives_accept (fun hcomma => ?_) ?_)
    · refine gives_bind (gives_fuel (gives_bind ?_))
      refine gives_takeUpTo fun high behind hhigh hbehind => ?_
      refine keeps_boundsEnd h (hwithin.past.onto (hbehind ▸ List.suffix_append _ _)) ?_
      intro hclose
      have hlist : rest = .plain ',' :: (spelled high ++ behind) :=
        hbehind ▸ Reader.tokens_eq_cons hcomma
      have htokens : r.tokens = (spelled low ++ .plain ',' :: spelled high) ++ behind := by
        rw [hrest, hlist, List.append_assoc, List.cons_append]
      have hdigits : ∀ c ∈ low ++ high, c.isDigit = true :=
        List.forall_mem_append.2 ⟨hlow, hhigh⟩
      exact ⟨.least hdigits (isInfix_braces hbrace htokens hclose),
        .most hdigits (isInfix_braces hbrace htokens hclose)⟩
    · refine gives_bind (gives_pure (keeps_boundsEnd h hwithin fun hclose => ?_))
      have honly : Counts T low := .only hlow (isInfix_braces hbrace hrest hclose)
      exact ⟨honly, honly⟩

/-- The bounds behind a repetition character, which stands right before what is ahead. -/
theorem keeps_repetition? {c : Char} (h : Within T r) (hc : .plain c :: r.tokens <:+ T)
    (hop : c = '*' ∨ c = '+' ∨ c = '?' ∨ c = '\x7b') :
    Gives T (repetition? c) r fun _ r' => Within T r' := by
  rcases hop with rfl | rfl | rfl | rfl
  · exact gives_pure h
  · exact gives_pure h
  · exact gives_pure h
  · exact keeps_bounds? h hc

theorem keeps_greed : Keeps T greed := by
  unfold greed
  refine (keeps_accept _).bind fun isLazy => ?_
  split
  · exact keeps_pure _
  · refine (keeps_accept _).bind fun isPossessive => ?_
    split
    · exact keeps_pure _
    · exact keeps_pure _

theorem keeps_repeatLast (bounds : Nat × Option Nat) (items : List Node) :
    Keeps T (repeatLast bounds items) := by
  unfold repeatLast
  split
  · exact keeps_malformed
  · split
    · exact keeps_malformed
    · exact keeps_malformed
    · exact keeps_greed.bind fun _ => keeps_pure _

/-! ## Options -/

theorem mem_optionLetters_of_addFlag {f g : Flags} {c : Char} (h : addFlag f c = some g) :
    c ∈ optionLetters := by
  unfold addFlag at h
  split at h
  case h_8 => cases h
  all_goals decide

/-- A letter adds its own option and no other. -/
theorem has_of_addFlag {f g : Flags} {c letter : Char} (h : addFlag f c = some g)
    (hg : g.has letter = true) : f.has letter = true ∨ c = letter := by
  unfold addFlag at h
  unfold Flags.has at hg ⊢
  split at h
  case h_5 =>
    split at h <;> cases h
    split at hg <;> first | exact .inl hg | exact .inr rfl
  case h_6 =>
    split at h <;> cases h
    split at hg <;> first | exact .inl hg | exact .inr rfl
  case h_8 => cases h
  all_goals
    cases h
    split at hg <;> first | exact .inl hg | exact .inr rfl

/-- Letters of options stand ahead up to the one that stops them, and add their own options. -/
theorem gives_flagLetters {n : Nat} {f : Flags} {c : Char} {Q : Flags × Char -> Reader -> Prop}
    (h : ∀ g stop letters rest, r.tokens = spelled letters ++ .plain stop :: rest ->
      c :: letters ⊆ optionLetters ->
      (∀ letter, g.has letter = true -> f.has letter = true ∨ letter ∈ c :: letters) ->
      Q (g, stop) (r.onto rest)) : Gives T (flagLetters n f c) r Q := by
  induction n generalizing f c r Q with
  | zero => exact gives_malformed
  | succ n ih =>
      unfold flagLetters
      refine gives_bind (gives_liftOption fun g hg => gives_bind (gives_take ?_))
      have hc : c ∈ optionLetters := mem_optionLetters_of_addFlag hg
      split
      · rename_i d hhead
        have htokens := Reader.tokens_eq_cons hhead
        split
        · refine gives_pure (h g d [] r.past.tokens htokens (by simpa using hc) ?_)
          exact fun letter hletter => (has_of_addFlag hg hletter).imp_right fun heq : c = letter =>
            heq ▸ List.mem_cons_self
        · refine ih fun g' stop letters rest hrest hletters hg' => ?_
          rw [Reader.past_onto]
          refine h g' stop (d :: letters) rest (by rw [htokens, hrest]; rfl)
            (List.cons_subset.2 ⟨hc, hletters⟩) fun letter hletter => ?_
          rcases hg' letter hletter with hbefore | hmem
          · exact (has_of_addFlag hg hbefore).imp_right fun heq : c = letter =>
              heq ▸ List.mem_cons_self
          · exact .inr (List.mem_cons_of_mem _ hmem)
      · exact gives_malformed

theorem keeps_flagLetters (n : Nat) (f : Flags) (c : Char) : Keeps T (flagLetters n f c) :=
  fun _ h => gives_flagLetters fun _ _ _ _ htokens _ _ =>
    h.onto (htokens ▸ (List.suffix_cons _ _).trans (List.suffix_append _ _))

/-- The rest of a group of options behind the letters that are turned on. -/
def flagsEnd (add : Flags) (stop : Char) : Reading FlagGroup := do
  if stop = ')' then return .whole add
  if add.template then malformed
  if stop = ':' then return .scoped add {}
  match <- take with
  | some (.plain d) =>
      let (drop, stop) <- flagLetters (<- fuel) {} d
      if stop != ':' || drop.ascii || drop.unicode || drop.template || add.meets drop then malformed
      return .scoped add drop
  | _ => malformed

theorem gives_flagsEnd {add : Flags} {stop : Char} (h : Within T r) :
    Gives T (flagsEnd add stop) r fun g r' =>
      Within T r' ∧ ∀ f, g = .whole f -> f = add ∧ stop = ')' := by
  refine gives_ite (fun hstop => gives_pure ⟨h, ?_⟩) fun _ => ?_
  · rintro _ ⟨⟩
    exact ⟨rfl, hstop⟩
  refine gives_ite (fun _ => gives_bind gives_malformed) fun _ => ?_
  refine gives_ite (fun _ => gives_pure ⟨h, nofun⟩) fun _ => gives_bind (gives_take ?_)
  split
  · rename_i d hhead
    refine gives_bind (gives_fuel ?_)
    refine (keeps_flagLetters _ {} d).next h.past fun dropped r' h' => ?_
    exact gives_ite (fun _ => gives_bind gives_malformed) fun _ => gives_pure ⟨h', nofun⟩
  · exact gives_malformed

/-- The options of a group, behind its parenthesis, its question mark and a first character. -/
theorem gives_flagGroup {c : Char} (h : Within T r)
    (hopen : .plain '(' :: .plain '?' :: .plain c :: r.tokens <:+ T) :
    Gives T (flagGroup c) r fun g r' =>
      Within T r' ∧ ∀ f, g = .whole f -> Covered T f ∧ Sets T c := by
  unfold flagGroup
  refine gives_ite (fun hc => gives_bind (gives_pure ?_)) fun _ => gives_bind (gives_fuel ?_)
  · refine (gives_flagsEnd h).mono fun g r' hg => ⟨hg.1, fun f hf => ?_⟩
    obtain ⟨-, rfl⟩ := hg.2 f hf
    exact absurd hc (by decide)
  · refine gives_bind (gives_flagLetters fun add stop letters rest htokens hletters hadd => ?_)
    have hrest : rest <:+ r.tokens :=
      htokens ▸ (List.suffix_cons _ _).trans (List.suffix_append _ _)
    refine (gives_flagsEnd (h.onto hrest)).mono fun g r' hg => ⟨hg.1, fun f hf => ?_⟩
    obtain ⟨rfl, rfl⟩ := hg.2 f hf
    obtain ⟨front, hfront⟩ := hopen
    have hsets (letter : Char) (hletter : letter ∈ c :: letters) : Sets T letter :=
      ⟨c :: letters, hletter, hletters, front, rest, by rw [← hfront, htokens]; simp [spelled]⟩
    refine ⟨fun letter hletter => hsets letter ((hadd letter hletter).resolve_left ?_),
      hsets c List.mem_cons_self⟩
    unfold Flags.has
    split <;> exact Bool.false_ne_true

/-! ## Expressions -/

theorem keeps_skipLine (n : Nat) : Keeps T (skipLine n) := by
  induction n with
  | zero => exact keeps_pure _
  | succ n ih =>
      unfold skipLine
      refine keeps_take.bind fun t => ?_
      split
      · exact keeps_pure _
      · exact keeps_pure _
      · exact ih

theorem keeps_skipComment (n : Nat) : Keeps T (skipComment n) := by
  induction n with
  | zero => exact keeps_malformed
  | succ n ih =>
      unfold skipComment
      refine keeps_take.bind fun t => ?_
      split
      · exact keeps_malformed
      · exact keeps_pure _
      · exact ih

theorem keeps_conditionGroup (name : List Char) : Keeps T (conditionGroup name) := by
  unfold conditionGroup
  split
  · exact keeps_get.bind fun r => keeps_liftOption _
  · refine (keeps_liftOption _).bind fun number => ?_
    dsimp only
    split
    · exact fun r h => gives_bind gives_malformed
    · refine Keeps.bind (keeps_modify ?_) fun _ => keeps_pure _
      exact fun r => ⟨rfl, rfl⟩

theorem keeps_groupName (close : Char) : Keeps T (groupName close) := by
  unfold groupName
  refine (keeps_nonemptyName close).bind fun name => ?_
  split
  · exact keeps_pure _
  · exact keeps_malformed

/-- How a group is opened behind its question mark, with the options that it sets. -/
theorem gives_opening (h : Within T r) (hopen : .plain '(' :: .plain '?' :: r.tokens <:+ T) :
    Gives T opening r fun how r' => Within T r' ∧ ∀ f, how = .whole f -> Covered T f := by
  unfold opening
  refine gives_bind (gives_take ?_)
  split
  · refine (keeps_accept '<').next h.past fun named r₁ h₁ => ?_
    split
    · exact (keeps_groupName '>').next h₁ fun name r₂ h₂ => gives_pure ⟨h₂, nofun⟩
    · refine (keeps_accept '=').next h₁ fun same r₂ h₂ => ?_
      split
      · refine (keeps_groupName ')').next h₂ fun name r₃ h₃ => gives_bind (gives_get ?_)
        refine (keeps_liftOption _).next h₃ fun index r₄ h₄ => ?_
        refine (keeps_backreference index).next h₄ fun node r₅ h₅ => ?_
        exact gives_pure ⟨h₅, nofun⟩
      · exact gives_malformed
  · exact gives_pure ⟨h.past, nofun⟩
  · refine gives_bind (gives_fuel ?_)
    exact (keeps_skipComment _).next h.past fun _ r₁ h₁ => gives_pure ⟨h₁, nofun⟩
  · exact gives_pure ⟨h.past, nofun⟩
  · exact gives_pure ⟨h.past, nofun⟩
  · refine (keeps_accept '=').next h.past fun equal r₁ h₁ => ?_
    split
    · exact gives_pure ⟨h₁, nofun⟩
    · refine (keeps_accept '!').next h₁ fun unequal r₂ h₂ => ?_
      split
      · exact gives_pure ⟨h₂, nofun⟩
      · exact gives_malformed
  · refine (keeps_nonemptyName ')').next h.past fun name r₁ h₁ => ?_
    refine (keeps_conditionGroup name).next h₁ fun index r₂ h₂ => ?_
    exact (keeps_checkBehind index).next h₂ fun _ r₃ h₃ => gives_pure ⟨h₃, nofun⟩
  · exact gives_pure ⟨h.past, nofun⟩
  · rename_i c _ _ _ _ _ _ _ _ hhead
    split
    · have hletter : .plain '(' :: .plain '?' :: .plain c :: r.past.tokens <:+ T :=
        Reader.tokens_eq_cons hhead ▸ hopen
      refine gives_bind ((gives_flagGroup h.past hletter).mono ?_)
      rintro (f | ⟨add, drop⟩) r' ⟨h', hwhole⟩
      · refine gives_pure ⟨h', ?_⟩
        rintro _ ⟨⟩
        exact (hwhole f rfl).1
      · exact gives_pure ⟨h', nofun⟩
    · exact gives_malformed
  · exact gives_malformed

section

variable {n : Nat} (halternatives : ∀ verbose outermost first,
    Keeps T (alternatives n verbose outermost first))
  (hitems : ∀ verbose first acc, Keeps T (items n verbose first acc))
  (hgroup : ∀ verbose how, Keeps T (group n verbose how))

include halternatives hitems in
theorem keeps_alternatives_succ (verbose outermost first : Bool) :
    Keeps T (alternatives (n + 1) verbose outermost first) := by
  unfold alternatives
  refine (hitems _ _ _).bind fun item => (keeps_accept '|').bind fun bar => ?_
  split
  · exact keeps_get.bind fun r => (halternatives _ _ _).bind fun node => keeps_pure _
  · exact keeps_pure _

include hitems hgroup

/-- The items behind the opening of a group, the group among them if it is one. -/
theorem keeps_items_opened {verbose first : Bool} {acc : List Node} {how : Opening}
    (h : Within T r) (hwhole : ∀ f, how = .whole f -> Covered T f) :
    Gives T (match how with
      | .comment => items n verbose first acc
      | .whole f => do
          modify fun r => { r with flags := r.flags.union f }
          if !first || !acc.isEmpty then malformed
          items n (<- get).flags.verbose first acc
      | _ => do items n verbose first ((<- group n verbose how) :: acc))
      r fun _ r' => Within T r' := by
  split
  · exact hitems _ _ _ h
  · rename_i f
    have hunion : Within T { r with flags := r.flags.union f } :=
      ⟨h.tokens, h.flags.union (hwhole f rfl)⟩
    refine gives_bind (gives_modify ?_)
    dsimp only
    split
    · exact gives_bind gives_malformed
    · exact gives_bind (gives_get (hitems _ _ _ hunion))
  · exact (hgroup _ _).next h fun node r' h' => hitems _ _ _ h'

theorem keeps_items_succ (verbose first : Bool) (acc : List Node) :
    Keeps T (items (n + 1) verbose first acc) := by
  intro r h
  unfold items
  refine gives_bind (gives_peek ?_)
  split
  · exact gives_pure h
  · exact gives_pure h
  · exact gives_pure h
  · exact gives_malformed
  · rename_i c _
    refine gives_bind (gives_advance ?_)
    exact (keeps_escape c).next h.past fun node r' h' => hitems _ _ _ h'
  · rename_i c _ _ hhead
    have htokens := Reader.tokens_eq_cons hhead
    refine gives_bind (gives_advance ?_)
    refine gives_ite (fun _ => hitems _ _ _ h.past) fun _ => gives_ite (fun _ => ?_) fun _ => ?_
    · refine gives_bind (gives_fuel ?_)
      exact (keeps_skipLine _).next h.past fun _ r' h' => hitems _ _ _ h'
    refine gives_ite (fun _ => ?_) fun _ => ?_
    · exact keeps_charSet.next h.past fun node r' h' => hitems _ _ _ h'
    refine gives_ite (fun _ => hitems _ _ _ h.past) fun _ => ?_
    refine gives_ite (fun _ => hitems _ _ _ h.past) fun _ => ?_
    refine gives_ite (fun _ => hitems _ _ _ h.past) fun _ => gives_ite (fun hop => ?_) fun _ => ?_
    · have hop : c = '*' ∨ c = '+' ∨ c = '?' ∨ c = '\x7b' := by
        simpa [or_assoc] using hop
      refine gives_bind ((keeps_repetition? h.past (htokens ▸ h.tokens) hop).mono ?_)
      intro bounds? r' h'
      split
      · exact hitems _ _ _ h'
      · rename_i bounds
        exact (keeps_repeatLast bounds acc).next h' fun repeated r'' h'' => hitems _ _ _ h''
    refine gives_ite (fun hparen => ?_) fun _ => hitems _ _ _ h.past
    refine gives_bind (gives_accept (fun hquestion => ?_) ?_)
    · have hopen : .plain '(' :: .plain '?' :: r.past.past.tokens <:+ T := by
        rw [← Reader.tokens_eq_cons hquestion, ← hparen, ← htokens]
        exact h.tokens
      refine gives_bind ((gives_opening h.past.past hopen).mono fun how r' hopened => ?_)
      exact keeps_items_opened hitems hgroup hopened.1 hopened.2
    · have hplain : ∀ f, Opening.plain = .whole f -> Covered T f := nofun
      exact gives_bind (gives_pure (keeps_items_opened hitems hgroup h.past hplain))

omit hgroup
include halternatives

theorem keeps_group_succ (verbose : Bool) (how : Opening) :
    Keeps T (group (n + 1) verbose how) := by
  have hbody (verbose : Bool) {f : Node -> Reading Node} (hf : ∀ body, Keeps T (f body)) :
      Keeps T (alternatives n verbose false false >>= f) :=
    (halternatives verbose false false).bind hf
  have hclose {x : Reading Node} (hx : Keeps T x) : Keeps T (expect ')' >>= fun _ => x) :=
    (keeps_expect ')').bind fun _ => hx
  have hcapture (name : Option String) : Keeps T (do
      let index <- openGroup name
      let body <- alternatives n verbose false false
      expect ')'
      closeGroup index body.width
      return Node.capture index body) :=
    (keeps_openGroup name).bind fun index => hbody _ fun body =>
      hclose ((keeps_closeGroup index body.width).bind fun _ => keeps_pure _)
  unfold group
  split
  · exact keeps_pure _
  · exact hbody _ fun _ => hclose (keeps_pure _)
  · refine keeps_get.bind fun r => ?_
    dsimp only
    split
    · refine Keeps.bind (keeps_modify ?_) fun _ => hbody _ fun _ => ?_
      · exact fun r => ⟨rfl, rfl⟩
      · refine Keeps.bind (keeps_modify ?_) fun _ => hclose (keeps_pure _)
        exact fun r => ⟨rfl, rfl⟩
    · exact hbody _ fun _ => hclose (keeps_pure _)
  · refine (hitems _ _ _).bind fun yes => (keeps_accept '|').bind fun hasNo => ?_
    dsimp only
    split
    · exact (hitems _ _ _).bind fun no => hclose (keeps_pure _)
    · exact (keeps_pure Node.empty).bind fun no => hclose (keeps_pure _)
  · exact hbody _ fun _ => hclose (keeps_pure _)
  · exact hbody _ fun _ => hclose (keeps_pure _)
  · exact hcapture none
  · rename_i name
    exact hcapture (some name)
  · exact keeps_malformed
  · exact keeps_malformed

end

/-- The readers of alternatives, of items and of groups stay within their text. -/
theorem keeps_expressions (n : Nat) :
    (∀ verbose outermost first, Keeps T (alternatives n verbose outermost first)) ∧
      (∀ verbose first acc, Keeps T (items n verbose first acc)) ∧
      ∀ verbose how, Keeps T (group n verbose how) := by
  induction n with
  | zero => exact ⟨fun _ _ _ => keeps_malformed, fun _ _ _ => keeps_malformed,
      fun _ _ => keeps_malformed⟩
  | succ n ih =>
      obtain ⟨halternatives, hitems, hgroup⟩ := ih
      exact ⟨keeps_alternatives_succ halternatives hitems, keeps_items_succ hitems hgroup,
        keeps_group_succ halternatives hitems⟩

theorem gives_pattern (h : Within T r) : Gives T pattern r fun _ _ => True := by
  unfold pattern
  refine gives_bind (gives_guardAhead (gives_bind (gives_fuel ?_)))
  refine ((keeps_expressions _).1 _ _ _).next h fun node r' h' => gives_bind (gives_get ?_)
  dsimp only
  split
  · rename_i hclash
    obtain ⟨hascii, hunicode⟩ := Bool.and_eq_true_iff.1 hclash
    exact gives_bind (gives_throw (.clash (h'.flags 'a' hascii) (h'.flags 'u' hunicode)))
  · split
    · split
      · exact gives_bind gives_malformed
      · split
        · exact gives_pure trivial
        · exact gives_malformed
    · exact gives_bind gives_malformed

end Reading

/-- Whatever is wrong with a text that is no pattern, the text is malformed or shows the fault. -/
theorem excuse_of_parse {text : String} {f : Fault} (h : parse text = .error f) :
    Excuse (tokenize text.toList) f := by
  have hstart : Reading.Within (tokenize text.toList) { tokens := tokenize text.toList } :=
    ⟨List.suffix_refl _, Reading.covered_none⟩
  have hgives := Reading.gives_pattern hstart
  unfold Reading.Gives at hgives
  cases hread : Reading.pattern { tokens := tokenize text.toList } with
  | ok result =>
      have hparse : parse text = .ok result.1 := congrArg (Except.map Prod.fst) hread
      rw [hparse] at h
      cases h
  | error fault =>
      have hparse : parse text = .error fault := congrArg (Except.map Prod.fst) hread
      rw [hparse] at h
      cases h
      rwa [hread] at hgives

end Clearance.Regex
