import Clearance.Regex.Parser

/-!
# What a reader gives

A reader of patterns passes over the tokens of its text and takes options from them.  It may fail:
the text is malformed, a repetition count in it is too large or too long, or it asks for both
coverages of scripts.  All but the first of these show in the tokens: a count stands between braces,
and an option of the whole pattern in a group of its own.
-/

namespace Clearance.Regex

/-- Whether the option of a letter is on. -/
def Flags.has (f : Flags) : Char -> Bool
  | 'i' => f.ignoreCase
  | 'm' => f.multiline
  | 's' => f.dotAll
  | 'x' => f.verbose
  | 'a' => f.ascii
  | 'u' => f.unicode
  | 't' => f.template
  | _ => false

theorem Flags.has_union (f g : Flags) (letter : Char) :
    (f.union g).has letter = (f.has letter || g.has letter) := by
  unfold has
  split <;> rfl

/-- Characters as tokens, none of them behind a backslash. -/
def spelled (cs : List Char) : List Token :=
  cs.map .plain

/-! ## Faults that show in the tokens -/

/-- The tokens have digits between braces, as the only bound of a repetition or as one of two. -/
inductive Counts (tokens : List Token) (digits : List Char) : Prop where
  | only (all : ∀ c ∈ digits, c.isDigit)
      (braces : .plain '\x7b' :: spelled digits ++ [.plain '\x7d'] <:+: tokens)
  | least {high : List Char} (all : ∀ c ∈ digits ++ high, c.isDigit)
      (braces : .plain '\x7b' :: spelled digits ++ .plain ',' :: spelled high ++ [.plain '\x7d']
        <:+: tokens)
  | most {low : List Char} (all : ∀ c ∈ low ++ digits, c.isDigit)
      (braces : .plain '\x7b' :: spelled low ++ .plain ',' :: spelled digits ++ [.plain '\x7d']
        <:+: tokens)

/-- The letters of options. -/
def optionLetters : List Char :=
  ['i', 'm', 's', 'x', 'a', 'u', 't']

/-- The tokens have a group of letters that sets an option for the whole pattern. -/
def Sets (tokens : List Token) (letter : Char) : Prop :=
  ∃ letters, letter ∈ letters ∧ letters ⊆ optionLetters ∧
    .plain '(' :: .plain '?' :: spelled letters ++ [.plain ')'] <:+: tokens

/-- A fault with what shows it in the tokens of a text. -/
inductive Excuse (tokens : List Token) : Fault -> Prop where
  | malformed : Excuse tokens .malformed
  | tooLarge {digits : List Char} (shown : Counts tokens digits)
      (large : Reading.countLimit ≤ Reading.number 10 digits) : Excuse tokens .repetitionTooLarge
  | tooLong {digits : List Char} (shown : Counts tokens digits) (long : 4300 < digits.length) :
      Excuse tokens (.countTooLong digits.length)
  | clash (ascii : Sets tokens 'a') (unicode : Sets tokens 'u') : Excuse tokens .scriptClash

/-- A reader with other tokens ahead. -/
def Reader.onto (r : Reader) (tokens : List Token) : Reader :=
  { r with tokens }

/-- A reader past its first token. -/
def Reader.past (r : Reader) : Reader :=
  r.onto (r.tokens.drop 1)

@[simp] theorem Reader.past_onto (r : Reader) (tokens : List Token) :
    r.past.onto tokens = r.onto tokens := rfl

theorem Reader.tokens_eq_cons {r : Reader} {t : Token} (h : r.tokens.head? = some t) :
    r.tokens = t :: r.past.tokens := by
  obtain ⟨rest, hrest⟩ := List.head?_eq_some_iff.1 h
  simp only [past, onto, hrest, List.drop_one, List.tail_cons]

namespace Reading

variable {α β : Type} {T : List Token} {r : Reader}

/-- A reading gives a value and a reader that are as they should be, or fails with an excuse. -/
def Gives (T : List Token) (x : Reading α) (r : Reader) (Q : α -> Reader -> Prop) : Prop :=
  match x r with
  | .ok (a, r') => Q a r'
  | .error f => Excuse T f

section

variable {Q : α -> Reader -> Prop}

theorem Gives.mono {x : Reading α} {P : α -> Reader -> Prop} (h : Gives T x r P)
    (himp : ∀ a r', P a r' -> Q a r') : Gives T x r Q := by
  unfold Gives at *
  cases hx : x r with
  | error f => rwa [hx] at h
  | ok result =>
      rw [hx] at h
      exact himp _ _ h

/-- What is read one after the other. -/
theorem gives_bind {x : Reading β} {f : β -> Reading α}
    (h : Gives T x r fun b r' => Gives T (f b) r' Q) : Gives T (x >>= f) r Q := by
  have hbind : (x >>= f) r = (x r).bind fun result => f result.1 result.2 := rfl
  unfold Gives at *
  rw [hbind]
  cases hx : x r with
  | error fault => rwa [hx] at h
  | ok result => rwa [hx] at h

theorem gives_ite {p : Prop} [Decidable p] {x y : Reading α} (hx : p -> Gives T x r Q)
    (hy : ¬p -> Gives T y r Q) : Gives T (if p then x else y) r Q := by
  split
  · exact hx ‹p›
  · exact hy ‹¬p›

theorem gives_pure {a : α} (h : Q a r) : Gives T (pure a) r Q :=
  h

theorem gives_throw {f : Fault} (h : Excuse T f) : Gives T (throw f) r Q :=
  h

theorem gives_malformed : Gives T malformed r Q :=
  Excuse.malformed

end

theorem gives_get {Q : Reader -> Reader -> Prop} (h : Q r r) : Gives T get r Q :=
  h

theorem gives_set {r' : Reader} {Q : PUnit -> Reader -> Prop} (h : Q ⟨⟩ r') :
    Gives T (set r') r Q :=
  h

theorem gives_modify {g : Reader -> Reader} {Q : PUnit -> Reader -> Prop} (h : Q ⟨⟩ (g r)) :
    Gives T (modify g) r Q :=
  h

/-! ## Single tokens -/

theorem gives_peek {Q : Option Token -> Reader -> Prop} (h : Q r.tokens.head? r) :
    Gives T peek r Q :=
  h

theorem gives_guardAhead {Q : Unit -> Reader -> Prop} (h : Q ⟨⟩ r) :
    Gives T guardAhead r Q := by
  unfold guardAhead
  refine gives_bind (gives_get ?_)
  split
  · exact gives_malformed
  · exact gives_pure h

theorem gives_advance {Q : Unit -> Reader -> Prop} (h : Q ⟨⟩ r.past) : Gives T advance r Q := by
  unfold advance
  exact gives_bind (gives_modify (gives_guardAhead h))

theorem gives_take {Q : Option Token -> Reader -> Prop} (h : Q r.tokens.head? r.past) :
    Gives T take r Q := by
  unfold take
  exact gives_bind (gives_peek (gives_bind (gives_advance (gives_pure h))))

/-- A character is accepted if it is ahead, and taken then. -/
theorem gives_accept {c : Char} {Q : Bool -> Reader -> Prop}
    (hahead : r.tokens.head? = some (.plain c) -> Q true r.past) (hother : Q false r) :
    Gives T (accept c) r Q := by
  unfold accept
  refine gives_bind (gives_peek ?_)
  split
  · rename_i hhead
    exact gives_bind (gives_advance (gives_pure (hahead (by simpa using hhead))))
  · exact gives_pure hother

/-- The characters that are taken pass the test, and stood ahead. -/
theorem gives_takeUpTo {test : Char -> Bool} {n : Nat} {Q : List Char -> Reader -> Prop}
    (h : ∀ cs rest, (∀ c ∈ cs, test c = true) -> r.tokens = spelled cs ++ rest ->
      Q cs (r.onto rest)) : Gives T (takeUpTo test n) r Q := by
  induction n generalizing r Q with
  | zero => exact gives_pure (h [] r.tokens nofun rfl)
  | succ n ih =>
      have hnone : Q [] r := h [] r.tokens nofun rfl
      unfold takeUpTo
      refine gives_bind (gives_peek ?_)
      split
      · rename_i c hhead
        split
        · rename_i htest
          refine gives_bind (gives_advance (gives_bind (ih fun cs rest hcs htokens => ?_)))
          refine gives_pure (h (c :: cs) rest (List.forall_mem_cons.2 ⟨htest, hcs⟩) ?_)
          rw [Reader.tokens_eq_cons hhead, htokens]
          rfl
        · exact gives_pure hnone
      · exact gives_pure hnone

/-! ## Readings that pass over tokens -/

/-- Options that groups of a text set for the whole of it. -/
def Covered (T : List Token) (f : Flags) : Prop :=
  ∀ letter, f.has letter = true -> Sets T letter

theorem covered_none : Covered T {} := by
  intro letter h
  unfold Flags.has at h
  split at h <;> cases h

theorem Covered.union {f g : Flags} (hf : Covered T f) (hg : Covered T g) :
    Covered T (f.union g) := by
  intro letter h
  rw [Flags.has_union, Bool.or_eq_true] at h
  exact h.elim (hf letter) (hg letter)

/-- A reader within a text has the last of its tokens ahead, and options that it asks for. -/
structure Within (T : List Token) (r : Reader) : Prop where
  tokens : r.tokens <:+ T
  flags : Covered T r.flags

theorem Within.onto (h : Within T r) {rest : List Token} (hrest : rest <:+ r.tokens) :
    Within T (r.onto rest) :=
  ⟨hrest.trans h.tokens, h.flags⟩

theorem Within.past (h : Within T r) : Within T r.past :=
  h.onto (List.drop_suffix 1 _)

/-- A reading leaves a reader within its text. -/
def Keeps (T : List Token) (x : Reading α) : Prop :=
  ∀ ⦃r⦄, Within T r -> Gives T x r fun _ r' => Within T r'

/-- What is read behind a reading that leaves its reader within the text. -/
theorem Keeps.next {x : Reading β} {f : β -> Reading α} {Q : α -> Reader -> Prop}
    (hx : Keeps T x) (h : Within T r) (hf : ∀ b r', Within T r' -> Gives T (f b) r' Q) :
    Gives T (x >>= f) r Q :=
  gives_bind ((hx h).mono hf)

theorem Keeps.bind {x : Reading β} {f : β -> Reading α} (hx : Keeps T x)
    (hf : ∀ b, Keeps T (f b)) : Keeps T (x >>= f) :=
  fun _ h => hx.next h fun b _ h' => hf b h'

theorem keeps_pure (a : α) : Keeps T (pure a) :=
  fun _ h => gives_pure h

theorem keeps_malformed : Keeps T (malformed : Reading α) :=
  fun _ _ => gives_malformed

theorem keeps_get : Keeps T get :=
  fun _ h => gives_get h

/-- A change of neither the tokens nor the options. -/
theorem keeps_modify {g : Reader -> Reader}
    (hg : ∀ r, (g r).tokens = r.tokens ∧ (g r).flags = r.flags) : Keeps T (modify g) :=
  fun r h => gives_modify ⟨(hg r).1 ▸ h.tokens, (hg r).2 ▸ h.flags⟩

theorem keeps_take : Keeps T take :=
  fun _ h => gives_take h.past

theorem keeps_accept (c : Char) : Keeps T (accept c) :=
  fun _ h => gives_accept (fun _ => h.past) h

theorem keeps_expect (c : Char) : Keeps T (expect c) := by
  unfold expect
  refine (keeps_accept c).bind fun accepted => ?_
  split
  · exact keeps_pure _
  · exact keeps_malformed

theorem keeps_takeUpTo (test : Char -> Bool) (n : Nat) : Keeps T (takeUpTo test n) :=
  fun _ h => gives_takeUpTo fun _ _ _ htokens => h.onto (htokens ▸ List.suffix_append _ _)

theorem keeps_takeName (close : Char) (n : Nat) : Keeps T (takeName close n) := by
  induction n with
  | zero => exact keeps_malformed
  | succ n ih =>
      unfold takeName
      refine keeps_take.bind fun t => ?_
      split
      · exact keeps_malformed
      · exact keeps_malformed
      · split
        · exact keeps_pure _
        · exact ih.bind fun _ => keeps_pure _
      · exact ih.bind fun _ => keeps_pure _

theorem gives_fuel {Q : Nat -> Reader -> Prop} (h : Q (r.tokens.length + 1) r) :
    Gives T fuel r Q :=
  h

theorem keeps_fuel : Keeps T fuel :=
  fun _ h => gives_fuel h

theorem keeps_nonemptyName (close : Char) : Keeps T (nonemptyName close) := by
  unfold nonemptyName
  refine keeps_fuel.bind fun n => (keeps_takeName close n).bind fun name => ?_
  split
  · exact keeps_malformed
  · exact keeps_pure _

theorem gives_liftOption {a? : Option α} {Q : α -> Reader -> Prop}
    (h : ∀ a, a? = some a -> Q a r) : Gives T (liftOption a?) r Q := by
  cases a? with
  | none => exact gives_malformed
  | some a => exact gives_pure (h a rfl)

theorem keeps_liftOption (a? : Option α) : Keeps T (liftOption a?) :=
  fun _ h => gives_liftOption fun _ _ => h

/-! ## Groups -/

theorem keeps_openGroup (name : Option String) : Keeps T (openGroup name) := by
  intro r h
  unfold openGroup
  refine gives_bind (gives_get ?_)
  dsimp only
  split
  · split
    · exact gives_bind gives_malformed
    · exact gives_bind (gives_set (gives_pure ⟨h.tokens, h.flags⟩))
  · exact gives_bind (gives_set (gives_pure ⟨h.tokens, h.flags⟩))

theorem keeps_closeGroup (index : Nat) (width : Width) : Keeps T (closeGroup index width) :=
  keeps_modify fun _ => ⟨rfl, rfl⟩

theorem keeps_checkBehind (index : Nat) : Keeps T (checkBehind index) := by
  unfold checkBehind
  refine keeps_get.bind fun r => ?_
  split
  · split
    · exact keeps_malformed
    · exact keeps_pure _
  · exact keeps_pure _

theorem keeps_backreference (index : Nat) : Keeps T (backreference index) := by
  unfold backreference
  refine keeps_get.bind fun r => ?_
  split
  · exact keeps_malformed
  · exact (keeps_checkBehind index).bind fun _ => keeps_pure _

/-! ## Escapes -/

theorem keeps_hexCode (n : Nat) : Keeps T (hexCode n) := by
  unfold hexCode
  refine (keeps_takeUpTo _ _).bind fun digits => ?_
  split
  · exact keeps_pure _
  · exact keeps_malformed

theorem keeps_codeEscape? (c : Char) : Keeps T (codeEscape? c) := by
  unfold codeEscape?
  split
  · exact (keeps_hexCode 2).bind fun _ => keeps_pure _
  · split
    · exact (keeps_hexCode 4).bind fun _ => keeps_pure _
    · split
      · refine (keeps_hexCode 8).bind fun code => ?_
        split
        · exact keeps_malformed
        · exact keeps_pure _
      · split
        · refine (keeps_expect _).bind fun _ => (keeps_nonemptyName _).bind fun name => ?_
          exact (keeps_liftOption _).bind fun _ => keeps_pure _
        · exact keeps_pure _

theorem keeps_octalCode (digits : List Char) : Keeps T (octalCode digits) := by
  unfold octalCode
  dsimp only
  split
  · exact keeps_malformed
  · exact keeps_pure _

theorem keeps_setEscape (c : Char) : Keeps T (setEscape c) := by
  unfold setEscape
  split
  · exact keeps_pure _
  · split
    · exact keeps_pure _
    · split
      · exact keeps_pure _
      · refine (keeps_codeEscape? c).bind fun code? => ?_
        split
        · exact keeps_pure _
        · split
          · refine (keeps_takeUpTo _ _).bind fun _ => ?_
            exact (keeps_octalCode _).bind fun _ => keeps_pure _
          · split
            · exact keeps_malformed
            · exact keeps_pure _

theorem keeps_digitEscape (c : Char) : Keeps T (digitEscape c) := by
  unfold digitEscape
  refine (keeps_takeUpTo _ _).bind fun more => ?_
  split
  · split
    · refine (keeps_takeUpTo _ _).bind fun last => ?_
      split
      · exact (keeps_octalCode _).bind fun _ => keeps_pure _
      · exact keeps_backreference _
    · exact keeps_backreference _
  · exact keeps_backreference _

theorem keeps_escape (c : Char) : Keeps T (escape c) := by
  unfold escape
  split
  · exact keeps_pure _
  · split
    · exact keeps_pure _
    · split
      · exact keeps_pure _
      · refine (keeps_codeEscape? c).bind fun code? => ?_
        split
        · exact keeps_pure _
        · split
          · exact (keeps_takeUpTo _ _).bind fun _ => keeps_pure _
          · split
            · exact keeps_digitEscape c
            · split
              · exact keeps_malformed
              · exact keeps_pure _

/-! ## Character sets -/

theorem keeps_setMember (t : Token) : Keeps T (setMember t) := by
  cases t with
  | plain c => exact keeps_pure _
  | escaped c => exact keeps_setEscape c
  | dangling => exact keeps_malformed

theorem keeps_setMembers (n : Nat) (acc : List Member) : Keeps T (setMembers n acc) := by
  induction n generalizing acc with
  | zero => exact keeps_malformed
  | succ n ih =>
      unfold setMembers
      refine keeps_take.bind fun t? => (keeps_liftOption t?).bind fun t => ?_
      split
      · exact keeps_pure _
      · refine (keeps_setMember t).bind fun first => (keeps_accept '-').bind fun dash => ?_
        split
        · refine keeps_take.bind fun u? => (keeps_liftOption u?).bind fun u => ?_
          split
          · exact keeps_pure _
          · refine (keeps_setMember u).bind fun last => ?_
            split
            · split
              · exact keeps_malformed
              · exact ih _
            · exact keeps_malformed
        · exact ih _

theorem keeps_charSet : Keeps T charSet := by
  unfold charSet
  refine (keeps_accept '^').bind fun negated => keeps_fuel.bind fun n => ?_
  refine (keeps_setMembers n []).bind fun members => ?_
  split
  · split
    · exact keeps_pure _
    · exact keeps_pure _
  · exact keeps_pure _

end Reading

end Clearance.Regex
