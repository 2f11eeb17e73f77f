import Clearance.Proofs.Regex.Faults
import Clearance.Proofs.Regex.Numbering

/-!
# A pattern among others

A text that is a pattern of its own may also be read as a part of a longer text, behind other
patterns and before a bar.  It is read there as it is alone, its groups being numbered on from
those before it, as long as it sets no options for the whole pattern, gives no name that is taken,
and does not speak of groups by their numbers behind groups of others.
-/

namespace Clearance.Regex

/-- The characters that a token is written with. -/
def Token.chars : Token -> List Char
  | .plain c => [c]
  | .escaped c => ['\\', c]
  | .dangling => ['\\']

/-- The characters that tokens are written with. -/
def written (tokens : List Token) : List Char :=
  tokens.flatMap Token.chars

/-- The tokens open a group with a name. -/
def Names (tokens : List Token) (name : String) : Prop :=
  ∃ between, written between = name.toList ∧
    .plain '(' :: .plain '?' :: .plain 'P' :: .plain '<' :: between ++ [.plain '>'] <:+: tokens

/-- A digit behind a backslash is the first of three that give a code in base eight. -/
def SpellsOctal (digit : Char) (following : List Token) : Prop :=
  ∃ second third rest, following = .plain second :: .plain third :: rest ∧
    Reading.isOctal digit ∧ Reading.isOctal second ∧ Reading.isOctal third

/-- The tokens speak of a group by its number: behind a backslash, or to ask about it. -/
inductive Numbers (tokens : List Token) : Prop where
  | reference {digit : Char} {following : List Token} (isDigit : digit.isDigit)
      (nonzero : digit ≠ '0') (noCode : ¬ SpellsOctal digit following)
      (shown : .escaped digit :: following <:+ tokens) : Numbers tokens
  | question {between : List Token} (number : Text.isIdentifier (written between) = false)
      (shown : .plain '(' :: .plain '?' :: .plain '(' :: between ++ [.plain ')'] <:+: tokens) :
      Numbers tokens

/--
A text as a part of a longer one: its own tokens, those after it, and what is known from the
patterns before it.
-/
structure Setting where
  own : List Token
  after : List Token
  groups : List (Option Width)
  names : List (String × Nat)
  asked : List Nat
  /-- The text goes up to the end or up to a bar. -/
  ends : ∀ t, after.head? = some t -> t = .plain '|'
  optionless : ∀ letter, ¬ Sets own letter
  unnamed : ∀ name, Names own name -> names.lookup name = none
  unnumbered : groups = [] ∨ ¬ Numbers own

namespace Reading

variable {α β : Type} {x : Reading β} {f : β -> Reading α} {r s t : Reader} {a : α} {b : β}

theorem Gives.of_eq_ok {T : List Token} {Q : β -> Reader -> Prop} (h : Gives T x r Q)
    (hx : x r = .ok (b, s)) : Q b s := by
  unfold Gives at h
  rwa [hx] at h

theorem bind_of_eq_ok (hx : x r = .ok (b, s)) : (x >>= f) r = f b s := by
  change (x r).bind (fun result => f result.1 result.2) = _
  rw [hx]
  rfl

theorem exists_of_bind_eq_ok (h : (x >>= f) r = .ok (a, t)) :
    ∃ b s, x r = .ok (b, s) ∧ f b s = .ok (a, t) := by
  cases hx : x r with
  | ok result => exact ⟨result.1, result.2, rfl, (bind_of_eq_ok hx).symm.trans h⟩
  | error fault =>
      change (x r).bind (fun result => f result.1 result.2) = _ at h
      rw [hx] at h
      cases h

end Reading

namespace Setting

/-- The number of groups before the text. -/
def count (S : Setting) : Nat :=
  S.groups.length

/-- What a reader of the text alone knows, as a reader of the longer text knows it. -/
def place (S : Setting) (r : Reader) : Reader :=
  { tokens := r.tokens ++ S.after
    flags := r.flags
    groups := S.groups ++ r.groups
    names := r.names.map (fun entry => (entry.1, entry.2 + S.count)) ++ S.names
    behind := r.behind.map (· + S.count)
    asked := r.asked ++ S.asked }

/-- A reader of the text alone, in a look back or in none, which has not met a lone backslash. -/
structure Inside (S : Setting) (behind : Option Nat) (r : Reader) : Prop where
  tokens : r.tokens <:+ S.own
  flags : r.flags = {}
  behind : r.behind = behind
  head : r.tokens.head? ≠ some .dangling
  dangling : .dangling ∈ S.own -> .dangling ∈ r.tokens
  names : ∀ entry ∈ r.names, Names S.own entry.1

open Reading

variable {S : Setting} {α β γ δ : Type} {r : Reader} {behind : Option Nat} {loose : Prop}

/--
What is read from the text alone is read from the longer text too, and leaves the reader in the
same place.  A loose reading may do otherwise if it uses up the text.
-/
def Follows (S : Setting) (loose : Prop) (x : Reading α) (y : Reading β) (r : Reader)
    (Q : α -> Reader -> β -> Prop) : Prop :=
  ∀ a s, x r = .ok (a, s) ->
    loose ∧ s.tokens = [] ∨ ∃ b, y (S.place r) = .ok (b, S.place s) ∧ Q a s b

section

variable {Q : α -> Reader -> β -> Prop}

theorem Follows.mono {x : Reading α} {y : Reading β} {P : α -> Reader -> β -> Prop}
    (h : S.Follows loose x y r P) (himp : ∀ a s b, P a s b -> Q a s b) :
    S.Follows loose x y r Q := by
  intro a s hx
  rcases h a s hx with hloose | ⟨b, hy, hP⟩
  · exact .inl hloose
  · exact .inr ⟨b, hy, himp a s b hP⟩

/-- What is known of the reading of the text alone. -/
theorem Follows.and_gives {x : Reading α} {y : Reading β} {T : List Token}
    {P : α -> Reader -> Prop} (h : S.Follows loose x y r Q) (hgives : Gives T x r P) :
    S.Follows loose x y r fun a s b => Q a s b ∧ P a s := by
  intro a s hx
  rcases h a s hx with hloose | ⟨b, hy, hQ⟩
  · exact .inl hloose
  · exact .inr ⟨b, hy, hQ, hgives.of_eq_ok hx⟩

/-- What the reading of the text alone cannot give need not be followed. -/
theorem follows_of_gives {x : Reading α} {y : Reading β} {T : List Token}
    {P : α -> Reader -> Prop} (hgives : Gives T x r P)
    (himp : ∀ a s, P a s -> loose ∧ s.tokens = []) : S.Follows loose x y r Q :=
  fun a s hx => .inl (himp a s (hgives.of_eq_ok hx))

/-- What is read behind a reading that may use up the text. -/
theorem follows_bind_end {x : Reading γ} {y : Reading δ} {f : γ -> Reading α} {g : δ -> Reading β}
    {ends : Prop} {T : List Token}
    (h : S.Follows ends x y r fun c s d => S.Follows loose (f c) (g d) s Q)
    (hend : ends -> ∀ c s, s.tokens = [] -> Gives T (f c) s fun _ s' => loose ∧ s'.tokens = []) :
    S.Follows loose (x >>= f) (y >>= g) r Q := by
  intro a s hxf
  obtain ⟨c, t, hx, hf⟩ := exists_of_bind_eq_ok hxf
  rcases h c t hx with ⟨hends, hnil⟩ | ⟨d, hy, hfollows⟩
  · exact .inl ((hend hends c t hnil).of_eq_ok hf)
  · rw [bind_of_eq_ok hy]
    exact hfollows a s hf

theorem follows_bind {x : Reading γ} {y : Reading δ} {f : γ -> Reading α} {g : δ -> Reading β}
    (h : S.Follows False x y r fun c s d => S.Follows loose (f c) (g d) s Q) :
    S.Follows loose (x >>= f) (y >>= g) r Q :=
  follows_bind_end (T := []) h False.elim

theorem follows_pure {a : α} {b : β} (h : Q a r b) : S.Follows loose (pure a) (pure b) r Q := by
  rintro _ _ ⟨⟩
  exact .inr ⟨b, rfl, h⟩

theorem follows_throw {f : Fault} {y : Reading β} :
    S.Follows loose (throw f : Reading α) y r Q := by
  rintro _ _ ⟨⟩

theorem follows_malformed {y : Reading β} : S.Follows loose (malformed : Reading α) y r Q :=
  follows_throw

theorem follows_throw_bind {fault : Fault} {f : γ -> Reading α} {y : Reading β} :
    S.Follows loose (throw fault >>= f) y r Q := by
  rintro _ _ ⟨⟩

theorem follows_ite {p : Prop} [Decidable p] {x y : Reading α} {x' y' : Reading β}
    (hx : p -> S.Follows loose x x' r Q) (hy : ¬p -> S.Follows loose y y' r Q) :
    S.Follows loose (if p then x else y) (if p then x' else y') r Q := by
  split
  · exact hx ‹p›
  · exact hy ‹¬p›

end

theorem follows_get {Q : Reader -> Reader -> Reader -> Prop} (h : Q r r (S.place r)) :
    S.Follows loose get get r Q := by
  rintro _ _ ⟨⟩
  exact .inr ⟨_, rfl, h⟩

theorem follows_set {s s' : Reader} {Q : PUnit -> Reader -> PUnit -> Prop} (hs : s' = S.place s)
    (h : Q ⟨⟩ s ⟨⟩) : S.Follows loose (set s) (set s') r Q := by
  rintro _ _ ⟨⟩
  rw [hs]
  exact .inr ⟨_, rfl, h⟩

theorem follows_modify {f g : Reader -> Reader} {Q : PUnit -> Reader -> PUnit -> Prop}
    (hg : g (S.place r) = S.place (f r)) (h : Q ⟨⟩ (f r) ⟨⟩) :
    S.Follows loose (modify f) (modify g) r Q := by
  rintro _ _ ⟨⟩
  rw [← hg]
  exact .inr ⟨_, rfl, h⟩

/-! ## Readings of the same kind -/

/-- A reading follows another one, and gives what a function makes of its result. -/
def Tracks (S : Setting) (φ : α -> β) (x : Reading α) (y : Reading β) : Prop :=
  ∀ ⦃behind r⦄, S.Inside behind r ->
    S.Follows False x y r fun a s b => b = φ a ∧ S.Inside behind s

/-- A reading does the same in the longer text. -/
def Steady (S : Setting) (x : Reading α) : Prop :=
  S.Tracks id x x

/-- A reading does the same in the longer text, and with more fuel. -/
def Grows (S : Setting) (x : Nat -> Reading α) : Prop :=
  ∀ ⦃n m⦄, n ≤ m -> S.Tracks id (x n) (x m)

section

variable {φ : α -> β} {x : Reading γ} {f : γ -> Reading α}

theorem Tracks.next {ψ : γ -> δ} {y : Reading δ} {g : δ -> Reading β}
    {Q : α -> Reader -> β -> Prop} (hx : S.Tracks ψ x y) (h : S.Inside behind r)
    (hf : ∀ c s, S.Inside behind s -> S.Follows loose (f c) (g (ψ c)) s Q) :
    S.Follows loose (x >>= f) (y >>= g) r Q := by
  refine follows_bind ((hx h).mono ?_)
  rintro c s _ ⟨rfl, hs⟩
  exact hf c s hs

theorem Tracks.bind {ψ : γ -> δ} {y : Reading δ} {g : δ -> Reading β} (hx : S.Tracks ψ x y)
    (hf : ∀ c, S.Tracks φ (f c) (g (ψ c))) : S.Tracks φ (x >>= f) (y >>= g) :=
  fun _ _ h => hx.next h fun c _ hs => hf c hs

theorem Steady.next {g : γ -> Reading β} {Q : α -> Reader -> β -> Prop} (hx : S.Steady x)
    (h : S.Inside behind r)
    (hf : ∀ c s, S.Inside behind s -> S.Follows loose (f c) (g c) s Q) :
    S.Follows loose (x >>= f) (x >>= g) r Q :=
  Tracks.next hx h hf

theorem Steady.bind {g : γ -> Reading β} (hx : S.Steady x) (hf : ∀ c, S.Tracks φ (f c) (g c)) :
    S.Tracks φ (x >>= f) (x >>= g) :=
  Tracks.bind hx hf

theorem tracks_pure (a : α) : S.Tracks φ (pure a) (pure (φ a)) :=
  fun _ _ h => follows_pure ⟨rfl, h⟩

theorem tracks_malformed {y : Reading β} : S.Tracks φ malformed y :=
  fun _ _ _ => follows_malformed

theorem steady_pure (a : α) : S.Steady (pure a) :=
  tracks_pure a

theorem steady_malformed : S.Steady (malformed : Reading α) :=
  tracks_malformed

end

/-! ## Single tokens -/

theorem guardAhead_eq (r : Reader) :
    guardAhead r = if r.tokens.head? = some .dangling then .error .malformed else .ok (⟨⟩, r) := by
  unfold guardAhead
  obtain ⟨tokens, flags, groups, names, behind, asked⟩ := r
  match tokens with
  | [] => rfl
  | .plain c :: rest => rfl
  | .escaped c :: rest => rfl
  | .dangling :: rest => rfl

/-- What is ahead in the longer text, where the text itself is used up. -/
theorem ahead_of_end (S : Setting) {t : Token} (hend : r.tokens.head? = none)
    (ht : (S.place r).tokens.head? = some t) : t = .plain '|' := by
  have hnil : r.tokens = [] := List.head?_eq_none_iff.1 hend
  apply S.ends t
  rw [← ht, place, hnil]
  rfl

theorem head?_place {t : Token} (h : r.tokens.head? = some t) :
    (S.place r).tokens.head? = some t := by
  change (r.tokens ++ S.after).head? = _
  rw [List.head?_append, h]
  rfl

theorem place_past {t : Token} (h : r.tokens.head? = some t) :
    (S.place r).past = S.place r.past := by
  obtain ⟨rest, hrest⟩ := List.head?_eq_some_iff.1 h
  simp [Reader.past, Reader.onto, place, hrest]

/-- The token ahead is seen, or the text is used up. -/
theorem follows_peek {f : Option Token -> Reading α} {g : Option Token -> Reading β}
    {Q : α -> Reader -> β -> Prop}
    (hend : r.tokens.head? = none -> ∀ t?, (∀ t, t? = some t -> t = .plain '|') ->
      S.Follows loose (f none) (g t?) r Q)
    (hseen : ∀ t, r.tokens.head? = some t -> S.Follows loose (f (some t)) (g (some t)) r Q) :
    S.Follows loose (peek >>= f) (peek >>= g) r Q := by
  apply follows_bind
  rintro _ _ ⟨⟩
  refine .inr ⟨(S.place r).tokens.head?, rfl, ?_⟩
  cases hhead : r.tokens.head? with
  | none => exact hend hhead _ fun t => S.ahead_of_end hhead
  | some t =>
      rw [head?_place hhead]
      exact hseen t hhead

theorem Inside.past {t : Token} (h : S.Inside behind r) (hhead : r.tokens.head? = some t)
    (hguard : r.past.tokens.head? ≠ some .dangling) : S.Inside behind r.past where
  tokens := (List.drop_suffix 1 _).trans h.tokens
  flags := h.flags
  behind := h.behind
  head := hguard
  dangling := by
    intro hown
    have hmem := h.dangling hown
    rw [Reader.tokens_eq_cons hhead] at hmem
    rcases List.mem_cons.1 hmem with rfl | hmem
    · exact absurd hhead h.head
    · exact hmem
  names := h.names

theorem head?_place_ne_dangling (S : Setting) (h : r.tokens.head? ≠ some .dangling) :
    (S.place r).tokens.head? ≠ some .dangling := by
  intro hplace
  cases hhead : r.tokens.head? with
  | none => exact nomatch S.ahead_of_end hhead hplace
  | some t =>
      rw [head?_place hhead] at hplace
      exact h (hhead.trans hplace)

theorem follows_advance {t : Token} {Q : Unit -> Reader -> Unit -> Prop} (h : S.Inside behind r)
    (hhead : r.tokens.head? = some t) (hQ : S.Inside behind r.past -> Q ⟨⟩ r.past ⟨⟩) :
    S.Follows loose advance advance r Q := by
  have hadvance (r : Reader) : advance r = guardAhead r.past := rfl
  intro _ s hs
  rw [hadvance, guardAhead_eq] at hs
  split at hs
  · cases hs
  · rename_i hguard
    cases hs
    refine .inr ⟨⟨⟩, ?_, hQ (h.past hhead hguard)⟩
    rw [hadvance, place_past hhead, guardAhead_eq, if_neg (S.head?_place_ne_dangling hguard)]

theorem follows_take_ahead {t : Token} {f : Option Token -> Reading α}
    {g : Option Token -> Reading β} {Q : α -> Reader -> β -> Prop} (h : S.Inside behind r)
    (hhead : r.tokens.head? = some t)
    (hseen : S.Inside behind r.past -> S.Follows loose (f (some t)) (g (some t)) r.past Q) :
    S.Follows loose (take >>= f) (take >>= g) r Q := by
  apply follows_bind
  unfold take
  refine follows_peek (fun hnone => ?_) fun u hu => ?_
  · rw [hhead] at hnone
    cases hnone
  · obtain rfl : t = u := Option.some.inj (hhead.symm.trans hu)
    exact follows_bind (follows_advance h hhead fun hpast => follows_pure (hseen hpast))

/-- The token ahead is taken; a reading that needs one fails where the text is used up. -/
theorem follows_take {f : Option Token -> Reading α} {g : Option Token -> Reading β}
    {Q : α -> Reader -> β -> Prop} (h : S.Inside behind r)
    (hend : ∀ s, f none s = .error .malformed)
    (hseen : ∀ t, r.tokens.head? = some t -> S.Inside behind r.past ->
      S.Follows loose (f (some t)) (g (some t)) r.past Q) :
    S.Follows loose (take >>= f) (take >>= g) r Q := by
  cases hhead : r.tokens.head? with
  | none =>
      refine follows_of_gives (T := []) (P := fun _ _ => False) ?_ fun _ _ => False.elim
      refine gives_bind (gives_take ?_)
      unfold Gives
      rw [hhead, hend]
      exact .malformed
  | some t => exact follows_take_ahead h hhead (hseen t hhead)

/-- A character other than a bar is accepted in both texts or in none of them. -/
theorem follows_accept {c : Char} {Q : Bool -> Reader -> Bool -> Prop} (h : S.Inside behind r)
    (hbar : c ≠ '|' ∨ r.tokens ≠ [])
    (hyes : r.tokens.head? = some (.plain c) -> S.Inside behind r.past -> Q true r.past true)
    (hno : Q false r false) : S.Follows loose (accept c) (accept c) r Q := by
  unfold accept
  refine follows_peek (fun hnone t? ht? => ?_) fun t ht => ?_
  · have hother : ¬ (t? == some (.plain c)) = true := by
      intro heq
      cases ht? (.plain c) (by simpa using heq)
      rcases hbar with hbar | hbar
      · exact hbar rfl
      · exact hbar (List.head?_eq_none_iff.1 hnone)
    rw [if_neg hother]
    exact follows_pure hno
  · split
    · rename_i heq
      obtain rfl : t = .plain c := by simpa using heq
      exact follows_bind (follows_advance h ht fun hpast => follows_pure (hyes ht hpast))
    · exact follows_pure hno

theorem steady_accept {c : Char} (hbar : c ≠ '|') : S.Steady (accept c) :=
  fun _ _ h => follows_accept h (.inl hbar) (fun _ hpast => ⟨rfl, hpast⟩) ⟨rfl, h⟩

theorem steady_expect {c : Char} (hbar : c ≠ '|') : S.Steady (expect c) := by
  unfold expect
  refine (steady_accept hbar).bind fun accepted => ?_
  split
  · exact steady_pure _
  · exact steady_malformed

/-! ## Readings with fuel -/

/-- A reading that may take as many tokens as there are, and does the same with more fuel. -/
def Fuelled (S : Setting) (x : Nat -> Reading α) : Prop :=
  ∀ ⦃behind r n m⦄, S.Inside behind r -> r.tokens.length < n -> n ≤ m ->
    S.Follows False (x n) (x m) r fun a s b => b = a ∧ S.Inside behind s

theorem Grows.fuelled {x : Nat -> Reading α} (hx : S.Grows x) : S.Fuelled x :=
  fun _ _ _ _ h _ hle => hx hle h

theorem length_le_place (S : Setting) (r : Reader) :
    r.tokens.length ≤ (S.place r).tokens.length := by
  simp [place]

/-- The fuel that is read off is more than there are tokens, and more in the longer text. -/
theorem follows_fuel {f : Nat -> Reading α} {g : Nat -> Reading β} {Q : α -> Reader -> β -> Prop}
    (h : ∀ n m, r.tokens.length < n -> n ≤ m -> S.Follows loose (f n) (g m) r Q) :
    S.Follows loose (fuel >>= f) (fuel >>= g) r Q := by
  apply follows_bind
  rintro _ _ ⟨⟩
  refine .inr ⟨_, rfl, ?_⟩
  exact h _ _ (Nat.lt_succ_self _) (Nat.succ_le_succ (S.length_le_place r))

theorem Fuelled.next {x : Nat -> Reading γ} {f : γ -> Reading α} {g : γ -> Reading β}
    {Q : α -> Reader -> β -> Prop} (hx : S.Fuelled x) (h : S.Inside behind r)
    (hf : ∀ c s, S.Inside behind s -> S.Follows loose (f c) (g c) s Q) :
    S.Follows loose (fuel >>= fun n => x n >>= f) (fuel >>= fun n => x n >>= g) r Q := by
  refine follows_fuel fun n m hlength hle => follows_bind ((hx h hlength hle).mono ?_)
  rintro _ s c ⟨rfl, hs⟩
  exact hf c s hs

theorem Fuelled.bind {x : Nat -> Reading γ} {φ : α -> β} {f : γ -> Reading α} {g : γ -> Reading β}
    (hx : S.Fuelled x) (hf : ∀ c, S.Tracks φ (f c) (g c)) :
    S.Tracks φ (fuel >>= fun n => x n >>= f) (fuel >>= fun n => x n >>= g) :=
  fun _ _ h => hx.next h fun c _ hs => hf c hs

theorem Reader.length_past {t : Token} (hhead : r.tokens.head? = some t) :
    r.past.tokens.length + 1 = r.tokens.length := by
  rw [Reader.tokens_eq_cons hhead, List.length_cons]

/-- Characters of a class without the bar are taken alike, if the bound is the same or not met. -/
theorem follows_takeUpTo {test : Char -> Bool} (hbar : test '|' = false) {n m : Nat}
    (h : S.Inside behind r) (hfuel : n = m ∨ r.tokens.length < n ∧ n ≤ m) :
    S.Follows False (takeUpTo test n) (takeUpTo test m) r fun cs s cs' =>
      cs' = cs ∧ S.Inside behind s := by
  induction n generalizing m r with
  | zero =>
      obtain rfl : m = 0 := by omega
      exact follows_pure ⟨rfl, h⟩
  | succ n ih =>
      obtain ⟨m, rfl⟩ : ∃ m', m = m' + 1 := ⟨m - 1, by omega⟩
      unfold takeUpTo
      refine follows_peek (fun hnone t? ht? => ?_) fun t ht => ?_
      · dsimp only
        split
        · rename_i c
          obtain ⟨⟩ := ht? _ rfl
          rw [if_neg (by simp [hbar])]
          exact follows_pure ⟨rfl, h⟩
        · exact follows_pure ⟨rfl, h⟩
      · split
        · split
          · refine follows_bind (follows_advance h ht fun hpast => ?_)
            have hlength := Reader.length_past ht
            refine follows_bind ((ih hpast (by omega)).mono ?_)
            rintro cs s _ ⟨rfl, hs⟩
            exact follows_pure ⟨rfl, hs⟩
          · exact follows_pure ⟨rfl, h⟩
        · exact follows_pure ⟨rfl, h⟩

theorem steady_takeUpTo {test : Char -> Bool} (hbar : test '|' = false) (n : Nat) :
    S.Steady (takeUpTo test n) :=
  fun _ _ h => follows_takeUpTo hbar h (.inl rfl)

theorem fuelled_takeUpTo {test : Char -> Bool} (hbar : test '|' = false) :
    S.Fuelled (takeUpTo test) :=
  fun _ _ _ _ h hlength hle => follows_takeUpTo hbar h (.inr ⟨hlength, hle⟩)

theorem grows_takeName (close : Char) : S.Grows (takeName close) := by
  intro n
  induction n with
  | zero => exact fun _ _ => tracks_malformed
  | succ n ih =>
      rintro (_ | m) hle behind r h
      · omega
      have hrest := ih (Nat.le_of_succ_le_succ hle)
      unfold takeName
      refine follows_take h (fun _ => rfl) fun t ht hpast => ?_
      cases t with
      | dangling => exact follows_malformed
      | escaped c => exact hrest.next hpast fun cs s hs => follows_pure ⟨rfl, hs⟩
      | plain c =>
          dsimp only
          split
          · exact follows_pure ⟨rfl, hpast⟩
          · exact hrest.next hpast fun cs s hs => follows_pure ⟨rfl, hs⟩

theorem steady_nonemptyName (close : Char) : S.Steady (nonemptyName close) := by
  unfold nonemptyName
  refine (grows_takeName close).fuelled.bind fun name => ?_
  split
  · exact steady_malformed
  · exact steady_pure _

theorem steady_liftOption (a? : Option α) : S.Steady (liftOption a?) := by
  cases a? with
  | none => exact steady_malformed
  | some a => exact steady_pure a

end Setting

end Clearance.Regex
