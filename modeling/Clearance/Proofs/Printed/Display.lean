import Clearance.Proofs.Printed.Markup

/-!
# Markup that can be shown

Markup can be shown if each of its tags that closes a style finds that style open.  A text without
such tags takes nothing from what is shown behind it, in a style or not, also if it ends with a
backslash or within a tag.
-/

namespace Clearance.Printed

variable {standard : String -> String} {cs t : List Char}

/-! ## Texts without brackets -/

/-- Whether a text has no brackets. -/
def Bare (cs : List Char) : Prop :=
  ∀ c ∈ cs, isBracket c = false

instance (cs : List Char) : Decidable (Bare cs) :=
  decidable_of_iff (cs.all fun c => !isBracket c) (by simp [Bare])

theorem bare_append : Bare (cs ++ t) ↔ Bare cs ∧ Bare t :=
  List.forall_mem_append

theorem Bare.not_mem (h : Bare cs) : '[' ∉ cs :=
  fun hmem => absurd (h '[' hmem) (by decide)

theorem Bare.verbatim (h : Bare cs) : Verbatim cs where
  tagless := fun _ hsuffix => absurd (hsuffix.mem List.mem_cons_self) h.not_mem
  unescaped := fun hpart => absurd (hpart.mem (by simp)) h.not_mem

theorem Bare.opensFirst (h : Bare cs) : OpensFirst cs := by
  rw [OpensFirst, List.find?_eq_none.2 fun c hc => by rw [h c hc]; exact Bool.false_ne_true]
  exact fun heq => nomatch heq

theorem Bare.openedBy (h : Bare cs) (slashes : Nat) (opened : List String) :
    openedBy standard (piecesFrom 0 slashes cs) opened = some opened := by
  have hhead : cs.head? ≠ some '[' := fun hhead => h.not_mem (List.mem_of_mem_head? hhead)
  rw [piecesFrom_of_verbatim h.verbatim slashes (.inr hhead), openedBy_append,
    openedBy_backslashes, Option.bind_some, openedBy_map_char]

/-- What has no brackets changes nothing behind a text. -/
theorem openedBy_append_bare (cs : List Char) (h : Bare t) (opened : List String) :
    openedBy standard (piecesFrom 0 0 (cs ++ t)) opened =
      openedBy standard (piecesFrom 0 0 cs) opened := by
  obtain ⟨front, pending, hfront⟩ := exists_front 0 cs
  rw [hfront.append t h.opensFirst, hfront.pieces_eq, openedBy_append, openedBy_append]
  refine congrArg _ (funext fun opened => ?_)
  rw [h.openedBy, openedBy_backslashes]

/-- Whether markup reads every character of a text as it is. -/
def Literal (cs : List Char) : Prop :=
  ∀ c ∈ cs, c ≠ '\\' ∧ c ≠ '['

instance (cs : List Char) : Decidable (Literal cs) :=
  decidable_of_iff (cs.all fun c => c != '\\' && c != '[') (by simp [Literal])

/-- Such characters are read on their own, whatever follows them. -/
theorem Literal.piecesFrom_append (h : Literal cs) (t : List Char) :
    piecesFrom 0 0 (cs ++ t) = cs.map Piece.char ++ piecesFrom 0 0 t := by
  induction cs with
  | nil => rfl
  | cons c rest ih =>
      obtain ⟨⟨hslash, hbracket⟩, hrest⟩ := List.forall_mem_cons.1 h
      rw [List.cons_append, piecesFrom_char hslash hbracket, ih hrest]
      rfl

/-! ## Texts that close nothing -/

/-- Whether a piece is a tag that closes a style. -/
def Piece.closes : Piece -> Bool
  | .char _ => false
  | .tag content => content.head? == some '/'

/-- Whether no tag of a text closes a style. -/
def Unclosing (cs : List Char) : Prop :=
  ∀ p ∈ piecesFrom 0 0 cs, p.closes = false

instance (cs : List Char) : Decidable (Unclosing cs) :=
  inferInstanceAs (Decidable (∀ p ∈ piecesFrom 0 0 cs, p.closes = false))

theorem Verbatim.unclosing (h : Verbatim cs) : Unclosing cs := by
  intro p hmem
  rw [piecesFrom_of_verbatim h 0 (.inl rfl), Piece.backslashes, List.replicate_zero,
    List.nil_append] at hmem
  obtain ⟨c, -, rfl⟩ := List.mem_map.1 hmem
  rfl

theorem Unclosing.literal_append (hcs : Literal cs) (h : Unclosing t) :
    Unclosing (cs ++ t) := by
  intro p hmem
  rw [hcs.piecesFrom_append] at hmem
  obtain hmem | hmem := List.mem_append.1 hmem
  · obtain ⟨c, -, rfl⟩ := List.mem_map.1 hmem
    rfl
  · exact h p hmem

/-- Tags that close nothing leave open what was open. -/
theorem exists_openedBy {ps : List Piece} (h : ∀ p ∈ ps, p.closes = false)
    (opened : List String) : ∃ more, openedBy standard ps opened = some (more ++ opened) := by
  induction ps generalizing opened with
  | nil => exact ⟨[], rfl⟩
  | cons p ps ih =>
      obtain ⟨hp, hps⟩ := List.forall_mem_cons.1 h
      cases p with
      | char c => exact ih hps opened
      | tag content =>
          let style := standard (String.ofList (tagName content))
          obtain ⟨more, hmore⟩ := ih hps (style :: opened)
          refine ⟨more ++ [style], ?_⟩
          have hhead : content.head? ≠ some '/' := by simpa [Piece.closes] using hp
          rw [openedBy, follow_of_head hhead, Option.bind_some, hmore, List.append_assoc,
            List.singleton_append]

/-- Whether pieces can be shown whichever styles are open before them. -/
def Steady (standard : String -> String) (ps : List Piece) : Prop :=
  ∀ opened, (openedBy standard ps opened).isSome

theorem Bare.steady (h : Bare cs) (slashes : Nat) : Steady standard (piecesFrom 0 slashes cs) :=
  fun opened => by rw [h.openedBy]; rfl

theorem steady_char {c : Char} (hslash : c ≠ '\\') (hbracket : c ≠ '[')
    (h : Steady standard (piecesFrom 0 0 t)) (slashes : Nat) :
    Steady standard (piecesFrom 0 slashes (c :: t)) := by
  intro opened
  rw [piecesFrom_char hslash hbracket, openedBy_append, openedBy_backslashes]
  exact h opened

/-- Whether what can be shown can also be shown behind a text. -/
def Harmless (standard : String -> String) (cs : List Char) : Prop :=
  ∀ t, OpensFirst t -> (∀ slashes, Steady standard (piecesFrom 0 slashes t)) ->
    Steady standard (piecesFrom 0 0 (cs ++ t))

theorem Harmless.steady (h : Harmless standard cs) : Steady standard (piecesFrom 0 0 cs) := by
  have hempty := h [] opensFirst_nil (Bare.steady (by decide))
  rwa [List.append_nil] at hempty

theorem Harmless.isSome_display? {s : String} (h : Harmless standard s.toList) :
    (display? standard s).isSome := by
  rw [Printed.isSome_display?]
  exact h.steady []

theorem Harmless.literal_append (hcs : Literal cs) (h : Harmless standard t) :
    Harmless standard (cs ++ t) := by
  intro after hopens hsteady opened
  rw [List.append_assoc, hcs.piecesFrom_append, openedBy_append, openedBy_map_char]
  exact h after hopens hsteady opened

theorem Unclosing.front {front : List Piece} {pending : Nat} (h : Unclosing cs)
    (hfront : Front 0 cs front pending) : ∀ p ∈ front, p.closes = false := by
  intro p hmem
  refine h p ?_
  rw [hfront.pieces_eq]
  exact List.mem_append_left _ hmem

theorem Unclosing.harmless (h : Unclosing cs) : Harmless standard cs := by
  intro t hopens hsteady opened
  obtain ⟨front, pending, hfront⟩ := exists_front 0 cs
  obtain ⟨more, hmore⟩ := exists_openedBy (h.front hfront) opened
  rw [hfront.append t hopens, openedBy_append, hmore]
  exact hsteady pending _

/-- The tag that closes a style finds it open, if backslashes before it do not make it text. -/
theorem steady_styled {style text : String} (hstyle : IsStyle style) (h : Unclosing text.toList)
    (hsteady : Steady standard (piecesFrom 0 0 t)) :
    Steady standard (piecesFrom 0 0 ((styled style text).toList ++ t)) := by
  intro opened
  obtain ⟨front, pending, hfront⟩ := exists_front 0 text.toList
  obtain ⟨more, hmore⟩ := exists_openedBy (h.front hfront) (standard style :: opened)
  rw [piecesFrom_styled hstyle hfront, openedBy, follow_open hstyle, Option.bind_some,
    openedBy_append, hmore, Option.bind_some, openedBy_append, tagPieces, openedBy_append,
    openedBy_backslashes, Option.bind_some]
  split
  · rw [openedBy_map_char]
    exact hsteady _
  · rw [openedBy, follow_close hstyle, if_pos (by simp)]
    exact hsteady _

theorem harmless_styled {style text : String} (hstyle : IsStyle style)
    (h : Unclosing text.toList) : Harmless standard (styled style text).toList :=
  fun _ _ hsteady => steady_styled hstyle h (hsteady 0)

/-- Lines that begin with a bracket can be shown together. -/
theorem steady_lines {lines : List String}
    (h : ∀ line ∈ lines, Harmless standard line.toList ∧ line.toList.head? = some '[') :
    Steady standard (piecesFrom 0 0 ("\n".intercalate lines).toList) := by
  induction lines with
  | nil => exact Bare.steady (by decide) 0
  | cons line rest ih =>
      obtain ⟨⟨hline, -⟩, hrest⟩ := List.forall_mem_cons.1 h
      cases rest with
      | nil => exact hline.steady
      | cons next rest =>
          have hnext : OpensFirst ("\n".intercalate (next :: rest)).toList := by
            obtain ⟨more, hmore⟩ := List.head?_eq_some_iff.1 (h next (by simp)).2
            cases rest <;> simp [String.intercalate_cons_cons, hmore, opensFirst_cons]
          rw [String.intercalate_cons_cons, String.toList_append, String.toList_append,
            List.append_assoc]
          refine hline _ (opensFirst_cons.2 (.inr ⟨by decide, hnext⟩)) ?_
          exact steady_char (by decide) (by decide) (ih hrest)

end Clearance.Printed
