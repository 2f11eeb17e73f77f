import Clearance.Proofs.Regex.Pieces

/-!
# The expressions of a pattern among others

Items, groups and the alternatives in them are read from a text as from a longer one that it is a
part of.  Only a comment that goes up to the end of the text would go on behind it, and only
alternatives at its end would go on behind the bar; neither is left to stand in a group, whose
parenthesis must still come.
-/

namespace Clearance.Regex

namespace Reading

variable {T : List Token} {r : Reader}

/-- A name is written with the tokens up to the closing character. -/
theorem gives_takeName {close : Char} {n : Nat} {Q : List Char -> Reader -> Prop}
    (h : ∀ between rest, r.tokens = between ++ .plain close :: rest ->
      Q (written between) (r.onto rest)) : Gives T (takeName close n) r Q := by
  induction n generalizing r Q with
  | zero => exact gives_malformed
  | succ n ih =>
      unfold takeName
      refine gives_bind (gives_take ?_)
      cases hhead : r.tokens.head? with
      | none => exact gives_malformed
      | some t =>
          have htokens := Reader.tokens_eq_cons hhead
          cases t with
          | dangling => exact gives_malformed
          | plain c =>
              refine gives_ite (fun hc => ?_) fun _ => ?_
              · exact gives_pure (h [] r.past.tokens (hc ▸ htokens))
              · refine gives_bind (ih fun between rest hrest => gives_pure ?_)
                exact h (.plain c :: between) rest (by rw [htokens, hrest]; rfl)
          | escaped c =>
              refine gives_bind (ih fun between rest hrest => gives_pure ?_)
              exact h (.escaped c :: between) rest (by rw [htokens, hrest]; rfl)

/-- What is taken is written with the tokens up to a closing character. -/
def Enclosed (close : Char) (r : Reader) (name : List Char) (s : Reader) : Prop :=
  ∃ between, written between = name ∧ r.tokens = between ++ .plain close :: s.tokens

theorem gives_nonemptyName (close : Char) :
    Gives T (nonemptyName close) r (Enclosed close r) := by
  unfold nonemptyName
  refine gives_bind (gives_fuel (gives_bind (gives_takeName fun between rest hrest => ?_)))
  exact gives_ite (fun _ => gives_malformed) fun _ => gives_pure ⟨between, rfl, hrest⟩

theorem gives_groupName (close : Char) :
    Gives T (groupName close) r fun name s => Enclosed close r name.toList s := by
  unfold groupName
  refine gives_bind ((gives_nonemptyName close).mono fun name s hname => ?_)
  refine gives_ite (fun _ => gives_pure ?_) fun _ => gives_malformed
  rwa [String.toList_ofList]

/-- How a group is opened behind so many others. -/
def Opening.shift (k : Nat) : Opening -> Opening
  | .node n => .node (n.shift k)
  | .condition index => .condition (index + k)
  | how => how

end Reading

namespace Setting

open Reading

variable {S : Setting} {behind : Option Nat} {r : Reader}

/-- A group as a text opens it that sets no options for the whole pattern. -/
structure Opens (S : Setting) (how : Opening) : Prop where
  named : ∀ name, how = .named name -> Names S.own name
  optionless : ∀ f, how ≠ .whole f

theorem follows_opening (h : S.Inside behind r)
    (hopen : .plain '(' :: .plain '?' :: r.tokens <:+ S.own) :
    S.Follows False opening opening r fun how s how' =>
      how' = how.shift S.count ∧ S.Inside behind s ∧ S.Opens how := by
  unfold opening
  refine follows_take h (fun _ => rfl) fun t ht hpast => ?_
  rw [Reader.tokens_eq_cons ht] at hopen
  split
  · rename_i heq
    obtain rfl : t = .plain 'P' := Option.some.inj heq
    refine follows_bind (follows_accept hpast (.inl (by decide)) (fun hless hpast' => ?_) ?_)
    · refine follows_bind (((steady_groupName '>' hpast').and_gives (T := [])
        (gives_groupName '>')).mono ?_)
      rintro name s _ ⟨⟨rfl, hs⟩, between, hname, htokens⟩
      refine follows_pure ⟨rfl, hs, ?_, nofun⟩
      rintro _ ⟨⟩
      refine ⟨between, hname, ?_⟩
      rw [Reader.tokens_eq_cons hless, htokens] at hopen
      refine List.IsInfix.trans ?_ hopen.isInfix
      exact ⟨[], s.tokens, by simp⟩
    · refine (steady_accept (by decide)).next hpast fun same s hs => ?_
      refine follows_ite (fun _ => ?_) fun _ => follows_malformed
      refine (steady_groupName ')').next hs fun name s hs => follows_bind (follows_get ?_)
      refine follows_bind ((follows_lookup hs name).mono ?_)
      rintro index s _ ⟨rfl, hs⟩
      exact (tracks_backreference index).next hs fun node s hs =>
        follows_pure ⟨rfl, hs, nofun, nofun⟩
  · exact follows_pure ⟨rfl, hpast, nofun, nofun⟩
  · exact grows_skipComment.fuelled.next hpast fun _ s hs =>
      follows_pure ⟨rfl, hs, nofun, nofun⟩
  · exact follows_pure ⟨rfl, hpast, nofun, nofun⟩
  · exact follows_pure ⟨rfl, hpast, nofun, nofun⟩
  · refine (steady_accept (by decide)).next hpast fun equal s hs => ?_
    refine follows_ite (fun _ => follows_pure ⟨rfl, hs, nofun, nofun⟩) fun _ => ?_
    refine (steady_accept (by decide)).next hs fun unequal s hs => ?_
    exact follows_ite (fun _ => follows_pure ⟨rfl, hs, nofun, nofun⟩) fun _ => follows_malformed
  · rename_i heq
    obtain rfl : t = .plain '(' := Option.some.inj heq
    refine follows_bind (((steady_nonemptyName ')' hpast).and_gives (T := [])
      (gives_nonemptyName ')')).mono ?_)
    rintro name s _ ⟨⟨rfl, hs⟩, between, hname, htokens⟩
    refine (tracks_conditionGroup fun hnumber => ?_).next hs fun index s hs => ?_
    · rw [htokens] at hopen
      refine .question (hname ▸ hnumber) (List.IsInfix.trans ?_ hopen.isInfix)
      exact ⟨[], s.tokens, by simp⟩
    · exact (tracks_checkBehind index).next hs fun _ s hs =>
        follows_pure ⟨rfl, hs, nofun, nofun⟩
  · exact follows_pure ⟨rfl, hpast, nofun, nofun⟩
  · rename_i c _ _ _ _ _ _ _ _ heq
    obtain rfl : t = .plain c := Option.some.inj heq
    refine follows_ite (fun _ => ?_) fun _ => follows_malformed
    have hwithin : Within S.own r.past := ⟨hpast.tokens, hpast.flags ▸ covered_none⟩
    refine follows_bind
      (((steady_flagGroup c hpast).and_gives (gives_flagGroup hwithin hopen)).mono ?_)
    rintro (f | ⟨add, drop⟩) s _ ⟨⟨rfl, hs⟩, -, hwhole⟩
    · exact (S.optionless c (hwhole f rfl).2).elim
    · exact follows_pure ⟨rfl, hs, nofun, nofun⟩
  · exact follows_malformed

/-! ## At the end of the text -/

theorem gives_accept_nil {T : List Token} {c : Char} {Q : Bool -> Reader -> Prop}
    (hnil : r.tokens = []) (h : Q false r) : Gives T (accept c) r Q := by
  refine gives_accept (fun hhead => ?_) h
  rw [hnil] at hhead
  cases hhead

/-- A group is not closed at the end of the text. -/
theorem gives_expect_nil {T : List Token} {α : Type} {c : Char} {f : Unit -> Reading α}
    {Q : α -> Reader -> Prop} (hnil : r.tokens = []) : Gives T (expect c >>= f) r Q :=
  gives_bind (gives_bind (gives_accept_nil hnil gives_malformed))

theorem gives_items_nil {T : List Token} {n : Nat} {verbose first : Bool} {acc : List Node}
    {Q : Node -> Reader -> Prop} (hnil : r.tokens = []) (h : ∀ node, Q node r) :
    Gives T (items n verbose first acc) r Q := by
  cases n with
  | zero => exact gives_malformed
  | succ n =>
      unfold items
      refine gives_bind (gives_peek ?_)
      rw [hnil]
      exact gives_pure (h _)

/-! ## Items and groups -/

theorem sequence_shift (k : Nat) (items : List Node) :
    (sequence items).shift k = sequence (items.map (Node.shift k)) := by
  induction items with
  | nil => rfl
  | cons item rest ih => exact congrArg (Node.seq (item.shift k)) ih

/-- An expression is read as it is alone, behind the groups before the text. -/
def Shifted (S : Setting) (behind : Option Nat) (node : Node) (s : Reader) (node' : Node) : Prop :=
  node' = node.shift S.count ∧ S.Inside behind s

/-- With some fuel, expressions are read from the longer text as they are from the text alone. -/
structure Expressions (S : Setting) (n : Nat) : Prop where
  alternatives : ∀ ⦃m⦄, n ≤ m -> ∀ ⦃behind r⦄, S.Inside behind r -> ∀ verbose,
    S.Follows True (alternatives n verbose false false) (alternatives m verbose false false) r
      (S.Shifted behind)
  items : ∀ ⦃m⦄, n ≤ m -> ∀ ⦃behind r⦄, S.Inside behind r -> ∀ verbose first first' acc,
    S.Follows (verbose = true) (items n verbose first acc)
      (items m verbose first' (acc.map (Node.shift S.count))) r (S.Shifted behind)
  group : ∀ ⦃m⦄, n ≤ m -> ∀ ⦃behind r⦄, S.Inside behind r -> ∀ verbose how, S.Opens how ->
    S.Follows False (group n verbose how) (group m verbose (how.shift S.count)) r
      (S.Shifted behind)

variable {n m : Nat}

theorem Expressions.alternatives_succ (ih : S.Expressions n) (hle : n ≤ m)
    (h : S.Inside behind r) (verbose : Bool) :
    S.Follows True (Reading.alternatives (n + 1) verbose false false)
      (Reading.alternatives (m + 1) verbose false false) r (S.Shifted behind) := by
  unfold Reading.alternatives
  refine follows_bind_end (T := []) ((ih.items hle h verbose false false []).mono ?_) ?_
  · rintro item s _ ⟨rfl, hs⟩
    by_cases hnil : s.tokens = []
    · refine follows_of_gives (T := []) ?_ fun _ _ => .intro trivial
      exact gives_bind (gives_accept_nil hnil (gives_pure hnil))
    · refine follows_bind (follows_accept hs (.inr hnil) (fun _ hpast => ?_) ?_)
      · refine follows_bind (follows_get ?_)
        refine follows_bind_end (T := []) ((ih.alternatives hle hpast verbose).mono ?_) ?_
        · rintro rest s _ ⟨rfl, hs⟩
          exact follows_pure ⟨rfl, hs⟩
        · exact fun _ rest s hnil => gives_pure ⟨trivial, hnil⟩
      · exact follows_pure ⟨rfl, hs⟩
  · refine fun _ item s hnil => gives_bind (gives_accept_nil hnil ?_)
    exact gives_pure ⟨trivial, hnil⟩

/-- The items behind the opening of a group, the group among them if it is one. -/
theorem Expressions.items_opened (ih : S.Expressions n) (hle : n ≤ m) (h : S.Inside behind r)
    (verbose first first' : Bool) (acc : List Node) (how : Opening) (hopens : S.Opens how) :
    S.Follows (verbose = true)
      (match how with
        | .comment => Reading.items n verbose first acc
        | .whole f => do
            modify fun r => { r with flags := r.flags.union f }
            if !first || !acc.isEmpty then malformed
            Reading.items n (<- get).flags.verbose first acc
        | _ => do Reading.items n verbose first ((<- Reading.group n verbose how) :: acc))
      (match how.shift S.count with
        | .comment => Reading.items m verbose first' (acc.map (Node.shift S.count))
        | .whole f => do
            modify fun r => { r with flags := r.flags.union f }
            if !first' || !(acc.map (Node.shift S.count)).isEmpty then malformed
            Reading.items m (<- get).flags.verbose first' (acc.map (Node.shift S.count))
        | _ => do
            Reading.items m verbose first' ((<- Reading.group m verbose (how.shift S.count)) ::
              acc.map (Node.shift S.count)))
      r (S.Shifted behind) := by
  have hgroup : S.Follows (verbose = true)
      (do Reading.items n verbose first ((<- Reading.group n verbose how) :: acc))
      (do Reading.items m verbose first' ((<- Reading.group m verbose (how.shift S.count)) ::
        acc.map (Node.shift S.count))) r (S.Shifted behind) := by
    refine follows_bind ((ih.group hle h verbose how hopens).mono ?_)
    rintro node s _ ⟨rfl, hs⟩
    exact ih.items hle hs verbose first first' (node :: acc)
  cases how with
  | comment => exact ih.items hle h verbose first first' acc
  | whole f => exact (hopens.optionless f rfl).elim
  | _ => exact hgroup

theorem Expressions.items_succ (ih : S.Expressions n) (hle : n ≤ m) (h : S.Inside behind r)
    (verbose first first' : Bool) (acc : List Node) :
    S.Follows (verbose = true) (Reading.items (n + 1) verbose first acc)
      (Reading.items (m + 1) verbose first' (acc.map (Node.shift S.count))) r
      (S.Shifted behind) := by
  have hrest (acc : List Node) {s : Reader} (hs : S.Inside behind s) :=
    ih.items hle hs verbose first first' acc
  have hend : S.Follows (verbose = true) (pure (sequence acc.reverse))
      (pure (sequence (acc.map (Node.shift S.count)).reverse)) r (S.Shifted behind) :=
    follows_pure ⟨by rw [sequence_shift, List.map_reverse], h⟩
  unfold Reading.items
  refine follows_peek (fun hnone t? ht? => ?_) fun t ht => ?_
  · cases t? with
    | none => exact hend
    | some t =>
        obtain rfl := ht? t rfl
        exact hend
  have hadvance {f g : Unit -> Reading Node}
      (hfollows : S.Inside behind r.past ->
        S.Follows (verbose = true) (f ⟨⟩) (g ⟨⟩) r.past (S.Shifted behind)) :
      S.Follows (verbose = true) (advance >>= f) (advance >>= g) r (S.Shifted behind) :=
    follows_bind (follows_advance h ht hfollows)
  have htokens := Reader.tokens_eq_cons ht
  split
  · exact hend
  · exact hend
  · exact hend
  · exact follows_malformed
  · rename_i c heq
    obtain rfl : t = .escaped c := Option.some.inj heq
    refine hadvance fun hpast => ?_
    refine follows_bind ((follows_escape hpast (htokens ▸ h.tokens)).mono ?_)
    rintro node s _ ⟨rfl, hs⟩
    exact hrest (node :: acc) hs
  · rename_i c _ _ heq
    obtain rfl : t = .plain c := Option.some.inj heq
    refine hadvance fun hpast => ?_
    refine follows_ite (fun _ => hrest acc hpast) fun _ => ?_
    refine follows_ite (fun hcomment => ?_) fun _ => ?_
    · -- A comment may run to the end of its own text, where in the larger text it runs on into
      -- what stands behind: the readings part there, and this one has come to its end.
      have hverbose : verbose = true := (Bool.and_eq_true_iff.1 hcomment).1
      refine follows_fuel fun k l hlength hle => ?_
      refine follows_bind_end (T := []) ((follows_skipLine hpast hlength hle).mono ?_) ?_
      · exact fun _ s _ hs => hrest acc hs
      · exact fun _ _ s hnil => gives_items_nil hnil fun _ => ⟨hverbose, hnil⟩
    refine follows_ite (fun _ => ?_) fun _ => ?_
    · exact tracks_charSet.next hpast fun node s hs => hrest (node :: acc) hs
    refine follows_ite (fun _ => hrest (.any :: acc) hpast) fun _ => ?_
    refine follows_ite (fun _ => hrest (.anchor .lineStart :: acc) hpast) fun _ => ?_
    refine follows_ite (fun _ => hrest (.anchor .lineEnd :: acc) hpast) fun _ => ?_
    refine follows_ite (fun _ => ?_) fun _ => ?_
    · refine (steady_repetition? c).next hpast fun bounds? s hs => ?_
      cases bounds? with
      | none => exact hrest (.code c.toNat :: acc) hs
      | some bounds =>
          exact (tracks_repeatLast bounds acc).next hs fun repeated s hs => hrest repeated hs
    refine follows_ite (fun hparen => ?_) fun _ => hrest (.code c.toNat :: acc) hpast
    refine follows_bind (follows_accept hpast (.inl (by decide)) (fun hquestion hinner => ?_) ?_)
    · have hopen : .plain '(' :: .plain '?' :: r.past.past.tokens <:+ S.own := by
        rw [← Reader.tokens_eq_cons hquestion, ← hparen, ← htokens]
        exact h.tokens
      refine follows_bind ((follows_opening hinner hopen).mono ?_)
      rintro how s _ ⟨rfl, hs, hopens⟩
      exact ih.items_opened hle hs verbose first first' acc how hopens
    · refine follows_bind (follows_pure ?_)
      exact ih.items_opened hle hpast verbose first first' acc .plain ⟨nofun, nofun⟩

/-- What is read up to the closing parenthesis of a group, which must come. -/
theorem Expressions.enclosed (ih : S.Expressions n) (hle : n ≤ m) (h : S.Inside behind r)
    (verbose : Bool) {f g : Node -> Reading Node} {Q : Node -> Reader -> Node -> Prop}
    (hf : ∀ body s, S.Inside behind s -> S.Follows False (f body) (g (body.shift S.count)) s Q) :
    S.Follows False (do
      let body <- Reading.alternatives n verbose false false
      expect ')'
      f body) (do
      let body <- Reading.alternatives m verbose false false
      expect ')'
      g body) r Q := by
  refine follows_bind_end (T := []) ((ih.alternatives hle h verbose).mono ?_) ?_
  · rintro body s _ ⟨rfl, hs⟩
    exact (steady_expect (by decide)).next hs fun _ s hs => hf body s hs
  · exact fun _ body s hnil => gives_expect_nil hnil

/-- In a look back the groups opened before the outermost one are known. -/
theorem Expressions.lookBehind (ih : S.Expressions n) (hle : n ≤ m) (h : S.Inside behind r)
    (verbose negated : Bool) :
    S.Follows False (Reading.group (n + 1) verbose (.lookBehind negated))
      (Reading.group (m + 1) verbose (.lookBehind negated)) r (S.Shifted behind) := by
  unfold Reading.group
  refine follows_bind (follows_get ?_)
  have hplace : (S.place r).behind = behind.map (· + S.count) := by
    rw [← h.behind]
    rfl
  rw [hplace, h.behind]
  cases behind with
  | some outer => exact ih.enclosed hle h verbose fun body s hs => follows_pure ⟨rfl, hs⟩
  | none =>
      have hinner : S.Inside (some r.groups.length) { r with behind := some r.groups.length } :=
        ⟨h.tokens, h.flags, rfl, h.head, h.dangling, h.names⟩
      have hmodify : { S.place r with behind := some (S.place r).groups.length } =
          S.place { r with behind := some r.groups.length } := by
        simp [place, count, Nat.add_comm]
      refine follows_bind (follows_modify hmodify ?_)
      refine follows_bind_end (T := []) ((ih.alternatives hle hinner verbose).mono ?_) ?_
      · rintro body s _ ⟨rfl, hs⟩
        refine follows_bind (follows_modify rfl ?_)
        have houter : S.Inside none { s with behind := none } :=
          ⟨hs.tokens, hs.flags, rfl, hs.head, hs.dangling, hs.names⟩
        exact (steady_expect (by decide)).next houter fun _ s hs => follows_pure ⟨rfl, hs⟩
      · exact fun _ body s hnil => gives_bind (gives_modify (gives_expect_nil hnil))

theorem Expressions.conditional (ih : S.Expressions n) (hle : n ≤ m) (h : S.Inside behind r)
    (verbose : Bool) (index : Nat) :
    S.Follows False (Reading.group (n + 1) verbose (.condition index))
      (Reading.group (m + 1) verbose (.condition (index + S.count))) r (S.Shifted behind) := by
  have hclose (yes no : Node) (hasNo : Bool) {s : Reader} (hs : S.Inside behind s) :
      S.Follows False (do
        expect ')'
        return Node.conditional index yes no hasNo) (do
        expect ')'
        return Node.conditional (index + S.count) (yes.shift S.count) (no.shift S.count) hasNo) s
        (S.Shifted behind) :=
    (steady_expect (by decide)).next hs fun _ s hs => follows_pure ⟨rfl, hs⟩
  have hitems {s : Reader} (hs : S.Inside behind s) := ih.items hle hs verbose false false []
  unfold Reading.group
  refine follows_bind_end (T := []) ((hitems h).mono ?_) ?_
  · rintro yes s _ ⟨rfl, hs⟩
    by_cases hnil : s.tokens = []
    · refine follows_of_gives (T := []) (P := fun _ _ => False) ?_ fun _ _ => False.elim
      exact gives_bind (gives_accept_nil hnil (gives_bind (gives_pure (gives_expect_nil hnil))))
    · refine follows_bind (follows_accept hs (.inr hnil) (fun _ hpast => ?_) ?_)
      · refine follows_bind_end (T := []) ((hitems hpast).mono ?_) ?_
        · rintro no s _ ⟨rfl, hs⟩
          exact hclose yes no true hs
        · exact fun _ no s hnil => gives_expect_nil hnil
      · exact follows_bind (follows_pure (hclose yes .empty false hs))
  · refine fun _ yes s hnil => gives_bind (gives_accept_nil hnil ?_)
    exact gives_bind (gives_pure (gives_expect_nil hnil))

theorem Expressions.group_succ (ih : S.Expressions n) (hle : n ≤ m) (h : S.Inside behind r)
    (verbose : Bool) {how : Opening} (hopens : S.Opens how) :
    S.Follows False (Reading.group (n + 1) verbose how)
      (Reading.group (m + 1) verbose (how.shift S.count)) r (S.Shifted behind) := by
  have hcapture (name : Option String) (hname : ∀ n, name = some n -> Names S.own n) :
      S.Follows False (do
        let index <- Reading.openGroup name
        let body <- Reading.alternatives n verbose false false
        expect ')'
        Reading.closeGroup index body.width
        return Node.capture index body) (do
        let index <- Reading.openGroup name
        let body <- Reading.alternatives m verbose false false
        expect ')'
        Reading.closeGroup index body.width
        return Node.capture index body) r (S.Shifted behind) := by
    refine follows_bind ((follows_openGroup h hname).mono ?_)
    rintro index s _ ⟨rfl, hindex, hs⟩
    refine ih.enclosed hle hs verbose fun body s hs => ?_
    rw [Node.width_shift]
    exact (tracks_closeGroup hindex body.width).next hs fun _ s hs => follows_pure ⟨rfl, hs⟩
  unfold Reading.group
  cases how with
  | node node => exact follows_pure ⟨rfl, h⟩
  | lookAhead negated =>
      exact ih.enclosed hle h verbose fun body s hs => follows_pure ⟨rfl, hs⟩
  | lookBehind negated => exact ih.lookBehind hle h verbose negated
  | condition index => exact ih.conditional hle h verbose index
  | atomic => exact ih.enclosed hle h verbose fun body s hs => follows_pure ⟨rfl, hs⟩
  | «scoped» add drop => exact ih.enclosed hle h _ fun body s hs => follows_pure ⟨rfl, hs⟩
  | plain =>
      refine hcapture none ?_
      rintro _ ⟨⟩
  | named name =>
      refine hcapture (some name) ?_
      rintro _ ⟨⟩
      exact hopens.named name rfl
  | comment => exact follows_malformed
  | whole f => exact follows_malformed

/-- Expressions are read from a text among others as they are from the text alone. -/
theorem expressions (S : Setting) (n : Nat) : S.Expressions n := by
  induction n with
  | zero =>
      exact ⟨fun _ _ _ _ _ _ => follows_malformed, fun _ _ _ _ _ _ _ _ _ => follows_malformed,
        fun _ _ _ _ _ _ _ _ => follows_malformed⟩
  | succ n ih =>
      refine ⟨?_, ?_, ?_⟩
      · rintro (_ | m) hle behind r h verbose
        · omega
        · exact ih.alternatives_succ (Nat.le_of_succ_le_succ hle) h verbose
      · rintro (_ | m) hle behind r h verbose first first' acc
        · omega
        · exact ih.items_succ (Nat.le_of_succ_le_succ hle) h verbose first first' acc
      · rintro (_ | m) hle behind r h verbose how hopens
        · omega
        · exact ih.group_succ (Nat.le_of_succ_le_succ hle) h verbose hopens

end Setting

end Clearance.Regex
