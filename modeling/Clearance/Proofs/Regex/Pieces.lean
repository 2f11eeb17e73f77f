import Clearance.Proofs.Regex.Setting

/-!
# The pieces of a pattern among others

Groups, escapes, character sets, repetitions and options are read from a text as they are read from
a longer one that it is a part of.  What refers to a group refers to the same group, under the
number that it has there.
-/

namespace Clearance.Regex

namespace Setting

open Reading

variable {S : Setting} {behind : Option Nat} {r : Reader}

/-! ## Groups -/

theorem lookup_map_snd (entries : List (String × Nat)) (k : Nat) (name : String) :
    (entries.map fun entry => (entry.1, entry.2 + k)).lookup name =
      (entries.lookup name).map (· + k) := by
  induction entries with
  | nil => rfl
  | cons entry rest ih =>
      obtain ⟨other, index⟩ := entry
      rw [List.map_cons, List.lookup_cons, List.lookup_cons, ih]
      cases name == other <;> rfl

theorem lookup_place (S : Setting) (r : Reader) (name : String) :
    (S.place r).names.lookup name =
      ((r.names.lookup name).map (· + S.count)).or (S.names.lookup name) := by
  change (r.names.map (fun entry => (entry.1, entry.2 + S.count)) ++ S.names).lookup name = _
  rw [List.lookup_append, lookup_map_snd]

theorem follows_lookup (h : S.Inside behind r) (name : String) :
    S.Follows False (liftOption (r.names.lookup name))
      (liftOption ((S.place r).names.lookup name)) r
      fun index s index' => index' = index + S.count ∧ S.Inside behind s := by
  rw [lookup_place]
  cases r.names.lookup name with
  | none => exact follows_malformed
  | some index => exact follows_pure ⟨rfl, h⟩

theorem closedWidth?_place {index : Nat} {width : Width}
    (h : closedWidth? r index = some width) :
    closedWidth? (S.place r) (index + S.count) = some width := by
  unfold closedWidth? at h ⊢
  split at h
  · cases h
  · rename_i hindex
    have hplace : index + S.count - 1 = S.groups.length + (index - 1) := by
      unfold count
      omega
    rw [if_neg (by omega), hplace]
    change ((S.groups ++ r.groups)[S.groups.length + (index - 1)]?).join = _
    rw [List.getElem?_append_right (Nat.le_add_right _ _), Nat.add_sub_cancel_left]
    exact h

theorem tracks_checkBehind (index : Nat) :
    S.Tracks id (checkBehind index) (checkBehind (index + S.count)) := by
  intro behind r h
  unfold checkBehind
  refine follows_bind (follows_get ?_)
  have hbehind : (S.place r).behind = r.behind.map (· + S.count) := rfl
  rw [hbehind]
  cases r.behind with
  | none => exact follows_pure ⟨rfl, h⟩
  | some before =>
      cases hwidth : closedWidth? r index with
      | none => exact follows_malformed
      | some width =>
          dsimp only [Option.map_some]
          rw [closedWidth?_place hwidth]
          by_cases hinner : before < index
          · rw [if_pos (by simpa using hinner)]
            exact follows_malformed
          · have houter : ¬ before + S.count < index + S.count := by omega
            rw [if_neg (by simpa using hinner), if_neg (by simpa using houter)]
            exact follows_pure ⟨rfl, h⟩

theorem tracks_backreference (index : Nat) :
    S.Tracks (Node.shift S.count) (backreference index) (backreference (index + S.count)) := by
  intro behind r h
  unfold backreference
  refine follows_bind (follows_get ?_)
  cases hwidth : closedWidth? r index with
  | none => exact follows_malformed
  | some width =>
      rw [closedWidth?_place hwidth]
      exact (tracks_checkBehind index).next h fun _ s hs => follows_pure ⟨rfl, hs⟩

/-- Opens a group whose name, if it has one, is not taken before the text. -/
theorem follows_openGroup {name : Option String} (h : S.Inside behind r)
    (hname : ∀ n, name = some n -> Names S.own n) :
    S.Follows False (Reading.openGroup name) (Reading.openGroup name) r fun index s index' =>
      index' = index + S.count ∧ 0 < index ∧ S.Inside behind s := by
  have hindex : (S.place r).groups.length + 1 = r.groups.length + 1 + S.count := by
    simp only [place, List.length_append, count]
    omega
  unfold Reading.openGroup
  refine follows_bind (follows_get ?_)
  rw [hindex]
  cases name with
  | none =>
      refine follows_bind (follows_set ?_ ?_)
      · simp [place]
      · refine follows_pure ⟨rfl, Nat.succ_pos _, ?_⟩
        exact ⟨h.tokens, h.flags, h.behind, h.head, h.dangling, h.names⟩
  | some n =>
      have hshown := hname n rfl
      cases htaken : r.names.lookup n with
      | some index =>
          dsimp only
          rw [htaken]
          exact follows_throw_bind
      | none =>
          have hplace : (S.place r).names.lookup n = none := by
            rw [lookup_place, htaken, S.unnamed n hshown]
            rfl
          dsimp only
          rw [htaken, hplace]
          refine follows_bind (follows_set ?_ ?_)
          · simp [place]
          · refine follows_pure ⟨rfl, Nat.succ_pos _, ?_⟩
            exact ⟨h.tokens, h.flags, h.behind, h.head, h.dangling,
              List.forall_mem_cons.2 ⟨hshown, h.names⟩⟩

theorem tracks_closeGroup {index : Nat} (hindex : 0 < index) (width : Width) :
    S.Tracks id (Reading.closeGroup index width)
      (Reading.closeGroup (index + S.count) width) := by
  intro behind r h
  unfold Reading.closeGroup
  refine follows_modify ?_ ⟨rfl, h.tokens, h.flags, h.behind, h.head, h.dangling, h.names⟩
  have hplace : index + S.count - 1 = S.groups.length + (index - 1) := by
    unfold count
    omega
  simp only [place, hplace]
  congr 1
  rw [List.set_append_right _ _ (Nat.le_add_right _ _), Nat.add_sub_cancel_left]

/-! ## Escapes -/

theorem steady_hexCode (n : Nat) : S.Steady (hexCode n) := by
  unfold hexCode
  refine (steady_takeUpTo (by decide) n).bind fun digits => ?_
  split
  · exact steady_pure _
  · exact steady_malformed

theorem steady_codeEscape? (c : Char) : S.Steady (codeEscape? c) := by
  unfold codeEscape?
  split
  · exact (steady_hexCode 2).bind fun _ => steady_pure _
  · split
    · exact (steady_hexCode 4).bind fun _ => steady_pure _
    · split
      · refine (steady_hexCode 8).bind fun code => ?_
        split
        · exact steady_malformed
        · exact steady_pure _
      · split
        · refine (steady_expect (by decide)).bind fun _ => ?_
          refine (steady_nonemptyName _).bind fun name => ?_
          exact (steady_liftOption _).bind fun _ => steady_pure _
        · exact steady_pure _

theorem steady_octalCode (digits : List Char) : S.Steady (octalCode digits) := by
  unfold octalCode
  dsimp only
  split
  · exact steady_malformed
  · exact steady_pure _

theorem steady_setEscape (c : Char) : S.Steady (setEscape c) := by
  unfold setEscape
  split
  · exact steady_pure _
  · split
    · exact steady_pure _
    · split
      · exact steady_pure _
      · refine (steady_codeEscape? c).bind fun code? => ?_
        split
        · exact steady_pure _
        · split
          · refine (steady_takeUpTo (by decide) 2).bind fun _ => ?_
            exact (steady_octalCode _).bind fun _ => steady_pure _
          · split
            · exact steady_malformed
            · exact steady_pure _

/-- Nodes without groups are the same behind any number of groups. -/
theorem tracks_leaf {node : Node} (hleaf : node.shift S.count = node) :
    S.Tracks (Node.shift S.count) (pure node) (pure node) :=
  fun _ _ h => follows_pure ⟨hleaf.symm, h⟩

/-- No groups stand before a text that speaks of groups by their numbers. -/
theorem count_eq_zero (hnumbers : Numbers S.own) : S.count = 0 := by
  rcases S.unnumbered with hgroups | hnone
  · rw [count, hgroups]
    rfl
  · exact absurd hnumbers hnone

theorem isDigit_of_isOctal {c : Char} (h : isOctal c = true) : c.isDigit = true := by
  unfold isOctal at h
  rw [Bool.and_eq_true, decide_eq_true_iff, decide_eq_true_iff] at h
  have hseven : ('7' : Char) ≤ '9' := by decide
  exact Bool.and_eq_true_iff.2 ⟨decide_eq_true h.1, decide_eq_true (Char.le_trans h.2 hseven)⟩

theorem gives_takeUpTo_one {T : List Token} {test : Char -> Bool} {c : Char}
    (hhead : r.tokens.head? = some (.plain c)) (htest : test c = true) :
    Gives T (takeUpTo test 1) r fun cs s => cs = [c] ∧ s = r.past := by
  unfold takeUpTo
  refine gives_bind (gives_peek ?_)
  rw [hhead]
  exact gives_ite (fun _ => gives_bind (gives_advance ⟨rfl, rfl⟩)) fun hnot => absurd htest hnot

/-- A digit other than zero behind a backslash gives a code, or speaks of a group. -/
theorem follows_digitEscape {c : Char} (h : S.Inside behind r) (hdigit : c.isDigit)
    (hnonzero : c ≠ '0') (hshown : .escaped c :: r.tokens <:+ S.own) :
    S.Follows False (digitEscape c) (digitEscape c) r fun node s node' =>
      node' = node.shift S.count ∧ S.Inside behind s := by
  -- Three octal digits are a code in any setting. What else starts so speaks of a group by its
  -- number, and the setting has then no groups in front to move that number.
  by_cases hoctal : SpellsOctal c r.tokens
  · obtain ⟨d, e, rest, htokens, hc, hd, he⟩ := hoctal
    have hsecond : r.tokens.head? = some (.plain d) := by rw [htokens, List.head?_cons]
    have hthird : r.past.tokens.head? = some (.plain e) := by
      rw [Reader.tokens_eq_cons hsecond, List.cons.injEq] at htokens
      rw [htokens.2, List.head?_cons]
    unfold digitEscape
    refine follows_bind (((steady_takeUpTo (by decide) 1 h).and_gives (T := [])
      (gives_takeUpTo_one hsecond (isDigit_of_isOctal hd))).mono ?_)
    rintro _ _ _ ⟨⟨rfl, hs⟩, rfl, rfl⟩
    refine follows_ite (fun _ => ?_) fun hnot => absurd (Bool.and_eq_true_iff.2 ⟨hc, hd⟩) hnot
    refine follows_bind (((steady_takeUpTo (by decide) 1 hs).and_gives (T := [])
      (gives_takeUpTo_one hthird he)).mono ?_)
    rintro _ _ _ ⟨⟨rfl, hs⟩, rfl, rfl⟩
    exact (steady_octalCode _).next hs fun _ _ hs => tracks_leaf rfl hs
  · have hcount := count_eq_zero (.reference hdigit hnonzero hoctal hshown)
    have hreference (index : Nat) :
        S.Tracks (Node.shift S.count) (backreference index) (backreference index) := by
      have htracks := @tracks_backreference S index
      rwa [hcount, Nat.add_zero, ← hcount] at htracks
    have htracks : S.Tracks (Node.shift S.count) (digitEscape c) (digitEscape c) := by
      unfold digitEscape
      refine (steady_takeUpTo (by decide) 1).bind fun more => ?_
      split
      · split
        · refine (steady_takeUpTo (by decide) 1).bind fun last => ?_
          split
          · exact (steady_octalCode _).bind fun _ => tracks_leaf rfl
          · exact hreference _
        · exact hreference _
      · exact hreference _
    exact htracks h

theorem codeEscape?_of_isDigit {c : Char} (h : c.isDigit = true) :
    codeEscape? c = (pure none : Reading (Option Nat)) := by
  have hne {d : Char} (hd : d.isDigit = false) : c ≠ d := by
    rintro rfl
    rw [h] at hd
    cases hd
  unfold codeEscape?
  rw [if_neg (hne (by decide)), if_neg (hne (by decide)), if_neg (hne (by decide)),
    if_neg (hne (by decide))]

theorem follows_escape {c : Char} (h : S.Inside behind r)
    (hshown : .escaped c :: r.tokens <:+ S.own) :
    S.Follows False (escape c) (escape c) r fun node s node' =>
      node' = node.shift S.count ∧ S.Inside behind s := by
  unfold escape
  split
  · exact tracks_leaf rfl h
  · split
    · exact tracks_leaf rfl h
    · split
      · exact tracks_leaf rfl h
      · by_cases hdigit : c.isDigit = true ∧ c ≠ '0'
        · rw [codeEscape?_of_isDigit hdigit.1]
          refine follows_bind (follows_pure ?_)
          rw [if_neg hdigit.2, if_pos hdigit.1]
          exact follows_digitEscape h hdigit.1 hdigit.2 hshown
        · refine (steady_codeEscape? c).next h fun code? s hs => ?_
          split
          · exact tracks_leaf rfl hs
          · refine follows_ite (fun _ => ?_) fun hnonzero => ?_
            · exact (steady_takeUpTo (by decide) 2).next hs fun _ _ hs => tracks_leaf rfl hs
            · rw [if_neg fun hd => hdigit ⟨hd, hnonzero⟩]
              exact follows_ite (fun _ => follows_throw_bind) fun _ => tracks_leaf rfl hs

/-! ## Character sets -/

theorem steady_setMember (t : Token) : S.Steady (setMember t) := by
  cases t with
  | plain c => exact steady_pure _
  | escaped c => exact steady_setEscape c
  | dangling => exact steady_malformed

theorem grows_setMembers (acc : List Member) : S.Grows fun n => setMembers n acc := by
  intro n
  induction n generalizing acc with
  | zero => exact fun _ _ => tracks_malformed
  | succ n ih =>
      rintro (_ | m) hle behind r h
      · omega
      have hrest (acc : List Member) : S.Tracks id (setMembers n acc) (setMembers m acc) :=
        ih acc (Nat.le_of_succ_le_succ hle)
      dsimp only
      unfold setMembers
      refine follows_take h (fun _ => rfl) fun t _ hpast => ?_
      refine (steady_liftOption (some t)).next hpast fun t s hs => ?_
      refine follows_ite (fun _ => follows_pure ⟨rfl, hs⟩) fun _ => ?_
      refine (steady_setMember t).next hs fun first s hs => ?_
      refine (steady_accept (by decide)).next hs fun dash s hs => ?_
      refine follows_ite (fun _ => ?_) fun _ => hrest _ hs
      refine follows_take hs (fun _ => rfl) fun u _ hpast => ?_
      refine (steady_liftOption (some u)).next hpast fun u s hs => ?_
      refine follows_ite (fun _ => follows_pure ⟨rfl, hs⟩) fun _ => ?_
      refine (steady_setMember u).next hs fun last s hs => ?_
      cases first with
      | code low =>
          cases last with
          | code high =>
              exact follows_ite (fun _ => follows_malformed) fun _ => hrest _ hs
          | range low high => exact follows_malformed
          | category kind negated => exact follows_malformed
      | range low high => exact follows_malformed
      | category kind negated => exact follows_malformed

theorem tracks_charSet : S.Tracks (Node.shift S.count) charSet charSet := by
  unfold charSet
  refine (steady_accept (by decide)).bind fun negated => ?_
  refine (grows_setMembers []).fuelled.bind fun members => ?_
  split
  · cases negated with
    | false => exact tracks_leaf rfl
    | true => exact tracks_leaf rfl
  · exact tracks_leaf rfl

/-! ## Repetition -/

theorem steady_count (digits : List Char) : S.Steady (Reading.count digits) := by
  unfold Reading.count
  split
  · exact fun _ _ _ => follows_throw
  · dsimp only
    split
    · exact fun _ _ _ => follows_throw
    · exact steady_pure _

theorem follows_boundsEnd {start : Reader} (hstart : S.Inside behind start)
    (h : S.Inside behind r) (low high : List Char) :
    S.Follows False (boundsEnd start low high) (boundsEnd (S.place start) low high) r
      fun bounds s bounds' => bounds' = bounds ∧ S.Inside behind s := by
  have hmost (least : Nat) : S.Steady (do
      if high.isEmpty then return some (least, none)
      let most <- Reading.count high
      if most < least then malformed
      return some (least, some most)) := by
    split
    · exact steady_pure _
    · refine (steady_count high).bind fun most => ?_
      dsimp only
      split
      · exact fun _ _ _ => follows_throw_bind
      · exact steady_pure _
  unfold boundsEnd
  refine (steady_accept (by decide)).next h fun closed s hs => ?_
  refine follows_ite (fun _ => ?_) fun _ => follows_ite (fun _ => ?_) fun _ => ?_
  · exact follows_bind (follows_set rfl (follows_pure ⟨rfl, hstart⟩))
  · exact (steady_pure 0).next hs fun least _ hs => hmost least hs
  · exact (steady_count low).next hs fun least _ hs => hmost least hs

theorem steady_bounds? : S.Steady bounds? := by
  intro behind r h
  have hopen : S.Follows False (do
      let low <- takeUpTo Char.isDigit (<- fuel)
      let high <- if <- accept ',' then takeUpTo Char.isDigit (<- fuel) else pure low
      boundsEnd r low high) (do
      let low <- takeUpTo Char.isDigit (<- fuel)
      let high <- if <- accept ',' then takeUpTo Char.isDigit (<- fuel) else pure low
      boundsEnd (S.place r) low high) r
      fun bounds s bounds' => bounds' = bounds ∧ S.Inside behind s := by
    refine (fuelled_takeUpTo (by decide)).next h fun low s hs => ?_
    refine (steady_accept (by decide)).next hs fun comma s hs => ?_
    refine follows_ite (fun _ => ?_) fun _ => follows_boundsEnd h hs low low
    exact (fuelled_takeUpTo (by decide)).next hs fun high s hs => follows_boundsEnd h hs low high
  unfold bounds?
  refine follows_bind (follows_get ?_)
  refine follows_peek (fun hnone t? ht? => ?_) fun t ht => ?_
  · rw [if_neg (by decide), if_neg]
    · exact hopen
    · intro hbrace
      exact nomatch ht? _ (beq_iff_eq.1 hbrace)
  · exact follows_ite (fun _ => follows_pure ⟨rfl, h⟩) fun _ => hopen

theorem steady_repetition? (c : Char) : S.Steady (repetition? c) := by
  unfold repetition?
  split
  · exact steady_pure _
  · exact steady_pure _
  · exact steady_pure _
  · exact steady_bounds?

theorem steady_greed : S.Steady greed := by
  unfold greed
  refine (steady_accept (by decide)).bind fun isLazy => ?_
  split
  · exact steady_pure _
  · refine (steady_accept (by decide)).bind fun isPossessive => ?_
    split
    · exact steady_pure _
    · exact steady_pure _

theorem tracks_repeatLast (bounds : Nat × Option Nat) (items : List Node) :
    S.Tracks (List.map (Node.shift S.count)) (repeatLast bounds items)
      (repeatLast bounds (items.map (Node.shift S.count))) := by
  unfold repeatLast
  cases items with
  | nil => exact tracks_malformed
  | cons item rest =>
      cases item with
      | anchor a => exact tracks_malformed
      | repeated least most greed body => exact tracks_malformed
      | _ => exact steady_greed.bind fun greed => tracks_pure _

/-! ## Options -/

theorem grows_flagLetters (f : Flags) (c : Char) : S.Grows fun n => flagLetters n f c := by
  intro n
  induction n generalizing f c with
  | zero => exact fun _ _ => tracks_malformed
  | succ n ih =>
      rintro (_ | m) hle behind r h
      · omega
      dsimp only
      unfold flagLetters
      refine (steady_liftOption (addFlag f c)).next h fun g s hs => ?_
      refine follows_take hs (fun _ => rfl) fun t _ hpast => ?_
      cases t with
      | plain d =>
          refine follows_ite (fun _ => follows_pure ⟨rfl, hpast⟩) fun _ => ?_
          exact ih g d (Nat.le_of_succ_le_succ hle) hpast
      | escaped d => exact follows_malformed
      | dangling => exact follows_malformed

theorem steady_flagsEnd (add : Flags) (stop : Char) : S.Steady (flagsEnd add stop) := by
  intro behind r h
  unfold flagsEnd
  refine follows_ite (fun _ => follows_pure ⟨rfl, h⟩) fun _ => ?_
  refine follows_ite (fun _ => follows_throw_bind) fun _ => ?_
  refine follows_ite (fun _ => follows_pure ⟨rfl, h⟩) fun _ => ?_
  refine follows_take h (fun _ => rfl) fun t _ hpast => ?_
  cases t with
  | plain d =>
      refine (grows_flagLetters {} d).fuelled.next hpast fun dropped s hs => ?_
      exact follows_ite (fun _ => follows_throw_bind) fun _ => follows_pure ⟨rfl, hs⟩
  | escaped d => exact follows_malformed
  | dangling => exact follows_malformed

theorem steady_flagGroup (c : Char) : S.Steady (flagGroup c) := by
  unfold flagGroup
  split
  · exact (steady_pure _).bind fun stopped => steady_flagsEnd stopped.1 stopped.2
  · exact (grows_flagLetters {} c).fuelled.bind fun stopped => steady_flagsEnd stopped.1 stopped.2

/-! ## Comments -/

theorem grows_skipComment : S.Grows skipComment := by
  intro n
  induction n with
  | zero => exact fun _ _ => tracks_malformed
  | succ n ih =>
      rintro (_ | m) hle behind r h
      · omega
      unfold skipComment
      refine follows_take h (fun _ => rfl) fun t _ hpast => ?_
      split
      · contradiction
      · exact follows_pure ⟨rfl, hpast⟩
      · exact ih (Nat.le_of_succ_le_succ hle) hpast

/-- A comment that goes up to the end of the text goes on in the longer one. -/
theorem follows_skipLine {n m : Nat} (h : S.Inside behind r) (hlength : r.tokens.length < n)
    (hle : n ≤ m) : S.Follows True (skipLine n) (skipLine m) r fun _ s _ => S.Inside behind s := by
  induction n generalizing m r with
  | zero => exact nomatch hlength
  | succ n ih =>
      obtain ⟨m, rfl⟩ : ∃ m', m = m' + 1 := ⟨m - 1, by omega⟩
      unfold skipLine
      cases hhead : r.tokens.head? with
      | none =>
          have hnil : r.tokens = [] := List.head?_eq_none_iff.1 hhead
          refine follows_of_gives (T := []) (P := fun _ s => s.tokens = []) ?_
            fun _ _ => .intro trivial
          refine gives_bind (gives_take ?_)
          rw [hhead]
          exact gives_pure (by simp [Reader.past, Reader.onto, hnil])
      | some t =>
          have htail := Reader.length_past hhead
          refine follows_take_ahead h hhead fun hpast => ?_
          split
          · contradiction
          · exact follows_pure hpast
          · exact ih hpast (by omega) (by omega)

/-! ## Groups -/

theorem tracks_conditionGroup {name : List Char}
    (hnumber : Text.isIdentifier name = false -> Numbers S.own) :
    S.Tracks (· + S.count) (conditionGroup name) (conditionGroup name) := by
  intro behind r h
  unfold conditionGroup
  cases hname : Text.isIdentifier name with
  | true => exact follows_bind (follows_get (follows_lookup h _))
  | false =>
      refine (steady_liftOption (Text.numeral? name)).next h fun number s hs => ?_
      refine follows_ite (fun _ => follows_throw_bind) fun _ => ?_
      refine follows_bind (follows_modify rfl (follows_pure ⟨?_, ?_⟩))
      · rw [count_eq_zero (hnumber hname)]
        rfl
      · exact ⟨hs.tokens, hs.flags, hs.behind, hs.head, hs.dangling, hs.names⟩

theorem steady_groupName (close : Char) : S.Steady (groupName close) := by
  unfold groupName
  refine (steady_nonemptyName close).bind fun name => ?_
  split
  · exact steady_pure _
  · exact steady_malformed

end Setting

end Clearance.Regex
