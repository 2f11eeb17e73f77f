import Clearance.Proofs.Results
import Clearance.Proofs.Yaml.Lexing
import Clearance.Yaml.Node.Reader

/-!
# Documents without tags

A node without a tag has the one that its kind or, if it is a plain scalar, its form gives it.  A
text in which no tag is written holds such nodes only.
-/

namespace Clearance.Yaml

/-! ## Tokens and nodes -/

/-- Whether a token is a tag. -/
def Token.isTag : Token -> Bool
  | .tag .. => true
  | _ => false

def Token.isScalar : Token -> Bool
  | .scalar .. => true
  | _ => false

/-- A plain scalar is sound and does not end in a line break. -/
inductive Token.Tidy : Token -> Prop where
  | plain {text : String} (ends : text.toList.getLast? ≠ some '\n') : Tidy (.scalar text true true)
  | quoted {text : String} {sound : Bool} : Tidy (.scalar text false sound)
  | mark {t : Token} (scalar : t.isScalar = false) : Tidy t

/-- A node, and all that is in it, without a tag of its own. -/
inductive Node.Untagged : Node -> Prop where
  | plain {text : String} (ends : text.toList.getLast? ≠ some '\n') :
      Untagged (.scalar (Tag.ofPlain text) text true)
  | quoted {text : String} {sound : Bool} : Untagged (.scalar .str text sound)
  | sequence {items : List Node} (items_untagged : ∀ n ∈ items, Untagged n) :
      Untagged (.sequence .seq items)
  | mapping {pairs : List (Node × Node)} (keys : ∀ pair ∈ pairs, Untagged pair.1)
      (values : ∀ pair ∈ pairs, Untagged pair.2) : Untagged (.mapping .map pairs)
  | reference {name : String} : Untagged (.reference name)

theorem Node.untagged_empty : Node.empty.Untagged := by
  have hempty : Node.empty = .scalar (Tag.ofPlain "") "" true := by
    rw [show Tag.ofPlain "" = .null by decide +kernel]
    rfl
  rw [hempty]
  exact .plain (by simp)

/-! ## Reading tokens -/

theorem isBreak_eq_false_of_mem_plainWord {flow : Bool} {cs : List Char} {ch : Char}
    (h : ch ∈ plainWord flow cs) : isBreak ch = false := by
  induction cs with
  | nil => cases h
  | cons c rest ih =>
      rw [plainWord] at h
      split at h
      · cases h
      · rename_i hgap
        split at h
        · cases h
        · split at h
          · cases h
          · rcases List.mem_cons.1 h with rfl | hrest
            · simp_all
            · exact ih hrest

/-- The last word of a plain scalar is on one line. -/
theorem getLast?_plainWords {flow broken : Bool} {indent : Int} {fuel : Nat} {c : Cursor}
    {text gap : List Char} (h : text.getLast? ≠ some '\n') :
    (plainWords flow indent fuel c text gap broken).1.1.getLast? ≠ some '\n' := by
  induction fuel generalizing c text gap broken with
  | zero => exact h
  | succ fuel ih =>
      rw [plainWords]
      split
      · exact h
      · dsimp only
        split
        · exact h
        · rename_i hword
          have hne : plainWord flow c.rest ≠ [] := by simpa using hword
          have hlast : (text ++ gap ++ plainWord flow c.rest).getLast? ≠ some '\n' := by
            rw [List.getLast?_append_of_ne_nil _ hne]
            intro hmem
            cases isBreak_eq_false_of_mem_plainWord (List.mem_of_getLast? hmem)
          split
          · exact hlast
          · exact ih hlast

theorem getLast?_plainScalar (flow : Bool) (indent : Int) (c : Cursor) :
    (plainScalar flow indent c).1.1.getLast? ≠ some '\n' :=
  getLast?_plainWords (by simp)

namespace Lexer

/-- All tokens so far are tidy. -/
def Tidy (l : Lexer) : Prop :=
  ∀ t ∈ l.tokens, t.Tidy

section

variable {α β : Type} {P : α -> Prop} {Q : β -> Prop}

/-- What a step leads to, if it succeeds, has a property. -/
def Yields (P : α -> Prop) (x : Except Flaw α) : Prop :=
  ∀ a, x = .ok a -> P a

theorem yields_ok {a : α} (h : P a) : Yields P (.ok a) := by
  rintro _ ⟨⟩
  exact h

theorem yields_error {flaw : Flaw} : Yields P (.error flaw) :=
  fun _ h => nomatch h

theorem yields_any (x : Except Flaw α) : Yields (fun _ => True) x :=
  fun _ _ => trivial

theorem Yields.bind {x : Except Flaw α} {f : α -> Except Flaw β} (hx : Yields P x)
    (hf : ∀ a, P a -> Yields Q (f a)) : Yields Q (x >>= f) := by
  intro b h
  obtain ⟨a, ha, hfa⟩ := exists_of_bind_ok h
  exact hf a (hx a ha) b hfa

theorem yields_ite {p : Prop} [Decidable p] {x y : Except Flaw α} (hx : p -> Yields P x)
    (hy : ¬p -> Yields P y) : Yields P (if p then x else y) := by
  split
  · exact hx ‹p›
  · exact hy ‹¬p›

end

variable {l : Lexer} {t : Token}

theorem Tidy.push (h : Tidy l) (ht : t.Tidy) : Tidy (l.push t) := by
  intro t' hmem
  rcases Array.mem_push.1 hmem with hold | rfl
  · exact h t' hold
  · exact ht

theorem Tidy.closeBlocks (h : Tidy l) (column : Int) : Tidy (l.closeBlocks column) := by
  unfold Lexer.closeBlocks
  split
  · exact h
  · intro t ht
    rcases Array.mem_append.1 ht with hold | hnew
    · exact h t hold
    · rw [(Array.mem_replicate.1 hnew).2]
      exact .mark rfl

theorem Tidy.openBlock (h : Tidy l) (column : Nat) {start : Token} (ht : start.Tidy) :
    Tidy (l.openBlock column start) := by
  unfold Lexer.openBlock openBlock?
  split
  · rename_i hopen
    split at hopen
    · cases hopen
      exact Tidy.push (l := { l with indent := column, outer := l.indent :: l.outer }) h ht
    · cases hopen
  · exact h

theorem Tidy.dropPending (h : Tidy l) : Yields Tidy l.dropPending := by
  unfold Lexer.dropPending
  split
  · exact yields_ok h
  · exact yields_ite (fun _ => yields_error) fun _ => yields_ok h

theorem Tidy.dropStale (h : Tidy l) : Yields Tidy l.dropStale :=
  yields_ite (fun _ => yields_error) fun _ => yields_ok h

theorem Tidy.notePending (h : Tidy l) : Yields Tidy l.notePending :=
  yields_ite (fun _ => h.dropPending.bind fun _ hl => yields_ok hl) fun _ => yields_ok h

theorem Tidy.skipBlanks (h : Tidy l) (fuel : Nat) : Tidy (l.skipBlanks fuel) := by
  induction fuel generalizing l with
  | zero => exact h
  | succ fuel ih =>
      rw [Lexer.skipBlanks]
      split
      · exact ih h
      · exact h

theorem Tidy.boundary (h : Tidy l) (ht : t.Tidy) (after : Cursor) :
    Yields Tidy (l.boundary t after) :=
  (h.closeBlocks (-1)).dropPending.bind fun _ hl => yields_ok (hl.push ht)

theorem Tidy.flowStart (h : Tidy l) (ht : t.Tidy) : Yields Tidy (l.flowStart t) := by
  refine h.notePending.bind fun m hm => yields_ok ?_
  exact Tidy.push (l := { m with flow := m.flow + 1, keyAllowed := true }) hm ht

theorem Tidy.flowEnd (h : Tidy l) (ht : t.Tidy) : Yields Tidy (l.flowEnd t) := by
  refine yields_ite (fun _ => yields_error) fun _ => h.dropPending.bind fun m hm => yields_ok ?_
  exact Tidy.push (l := { m with flow := m.flow - 1, keyAllowed := false }) hm ht

theorem Tidy.comma (h : Tidy l) : Yields Tidy l.comma :=
  h.dropPending.bind fun m hm =>
    yields_ok (Tidy.push (l := m.allowKey true) hm (.mark rfl))

/-- What comes behind a mark that opens a block where no flow bracket is open. -/
theorem Tidy.openMarked (h : Tidy l) {start : Token} (ht : start.Tidy) {flaw : Flaw}
    {f : Lexer -> Except Flaw Lexer} (hf : ∀ m, Tidy m -> Yields Tidy (f m)) :
    Yields Tidy (if l.flow != 0 then pure l >>= f
      else if l.keyAllowed then pure (l.openBlock l.cursor.column start) >>= f
      else Except.error flaw >>= f) :=
  yields_ite (fun _ => hf l h) fun _ =>
    yields_ite (fun _ => hf _ (h.openBlock _ ht)) fun _ => yields_error

theorem Tidy.entry (h : Tidy l) : Yields Tidy l.entry := by
  refine h.openMarked (.mark rfl) fun m hm => hm.dropPending.bind fun m hm => ?_
  exact yields_ok (Tidy.push (l := m.allowKey true) hm (.mark rfl))

theorem Tidy.key (h : Tidy l) : Yields Tidy l.key := by
  refine h.openMarked (.mark rfl) fun m hm => hm.dropPending.bind fun m hm => ?_
  exact yields_ok (Tidy.push (l := m.allowKey (m.flow = 0)) hm (.mark rfl))

/-- The tokens that open a key are put in front of what was read since. -/
theorem tidy_insert {tokens front : Array Token} (h : ∀ t ∈ tokens, t.Tidy)
    (hfront : ∀ t ∈ front, t.Tidy) (place : Nat) :
    ∀ t ∈ tokens.extract 0 place ++ front ++ tokens.extract place tokens.size, t.Tidy := by
  have hextract (i j : Nat) : ∀ t ∈ tokens.extract i j, t.Tidy := by
    intro t ht
    obtain ⟨k, hk, rfl⟩ := Array.mem_extract_iff_getElem.1 ht
    exact h _ (Array.getElem_mem _)
  intro t ht
  rcases Array.mem_append.1 ht with hbefore | hbehind
  · rcases Array.mem_append.1 hbefore with hold | hnew
    · exact hextract _ _ t hold
    · exact hfront t hnew
  · exact hextract _ _ t hbehind

theorem Tidy.openBlock? (h : Tidy l) (column : Nat) : Tidy ((l.openBlock? column).getD l) := by
  unfold Lexer.openBlock?
  split <;> exact h

theorem Tidy.value (h : Tidy l) : Yields Tidy l.value := by
  have hpush {m : Lexer} (hm : Tidy m) (after : Cursor) :
      Yields Tidy (pure ((m.push .value).moveTo after)) :=
    yields_ok (hm.push (.mark rfl))
  have hkey : Token.key.Tidy := .mark rfl
  have hstart : Token.blockMappingStart.Tidy := .mark rfl
  unfold Lexer.value
  split
  · rename_i key _
    refine hpush ?_ _
    refine tidy_insert ?_ ?_ key.place
    · split
      · exact h.openBlock? key.column
      · exact h
    · generalize (if l.flow = 0 then l.openBlock? key.column else none).isSome = opened
      cases opened with
      | true => simp [hkey, hstart]
      | false => simp [hkey]
  · refine yields_ite (fun _ => hpush (m := l.allowKey false) h _) fun _ =>
      yields_ite (fun _ => ?_) fun _ => yields_error
    exact hpush (m := (l.openBlock _ _).allowKey true) (h.openBlock _ hstart) _

theorem Tidy.atom (h : Tidy l) {read : Cursor -> Except Flaw (Cut Token)}
    (ht : ∀ c, Yields (fun cut => cut.1.Tidy) (read c)) : Yields Tidy (l.atom read) :=
  h.notePending.bind fun m hm => (ht m.cursor).bind fun _ hcut =>
    yields_ok (Tidy.push (l := m.allowKey false) hm hcut)

theorem Tidy.block (h : Tidy l) (folded : Bool) : Yields Tidy (l.block folded) := by
  refine h.dropPending.bind fun m hm => (yields_any _).bind fun _ _ => yields_ok ?_
  exact Tidy.push (l := m.allowKey true) hm .quoted

theorem Tidy.quoted (h : Tidy l) (double : Bool) : Yields Tidy (quoted double l) :=
  h.atom fun _ => (yields_any _).bind fun _ _ => yields_ok .quoted

theorem Tidy.plain (h : Tidy l) : Yields Tidy l.plain := by
  refine h.notePending.bind fun m hm => yields_ok ?_
  refine Tidy.push (l := m.allowKey _) hm (.plain ?_)
  rw [String.toList_ofList]
  exact getLast?_plainScalar _ _ _

theorem tidy_tag (c : Cursor) : Yields (fun cut => cut.1.Tidy) (tag c) := by
  have hcut (handle? : Option String) (rest : String) (after : Cursor) :
      Yields (fun cut => cut.1.Tidy)
        (if after.endsSpaced then pure (Token.tag handle? rest, after) else .error .tag) :=
    yields_ite (fun _ => yields_ok (.mark rfl)) fun _ => yields_error
  unfold tag
  refine yields_ite (fun _ => ?_) fun _ => yields_ite (fun _ => hcut _ _ _) fun _ =>
    yields_ite (fun _ => ?_) fun _ => ?_
  · refine (yields_any _).bind fun _ _ => yields_ite (fun _ => hcut _ _ _) fun _ => yields_error
  · exact (yields_any _).bind fun _ _ => (yields_any _).bind fun _ _ => hcut _ _ _
  · exact (yields_any _).bind fun _ _ => hcut _ _ _

theorem Tidy.readToken (h : Tidy l) (ch : Char) : Yields Tidy (readToken ch l) := by
  unfold Lexer.readToken
  refine yields_ite (fun _ => ?_) fun _ => ?_
  · refine (h.closeBlocks (-1)).dropPending.bind fun m hm => (yields_any _).bind fun _ _ => ?_
    exact yields_ok (hm.push (.mark rfl))
  refine yields_ite (fun _ => h.boundary (.mark rfl) _) fun _ => ?_
  refine yields_ite (fun _ => h.boundary (.mark rfl) _) fun _ => ?_
  refine yields_ite (fun _ => h.flowStart (.mark rfl)) fun _ => ?_
  refine yields_ite (fun _ => h.flowStart (.mark rfl)) fun _ => ?_
  refine yields_ite (fun _ => h.flowEnd (.mark rfl)) fun _ => ?_
  refine yields_ite (fun _ => h.flowEnd (.mark rfl)) fun _ => ?_
  refine yields_ite (fun _ => h.comma) fun _ => ?_
  refine yields_ite (fun _ => h.entry) fun _ => ?_
  refine yields_ite (fun _ => h.key) fun _ => ?_
  refine yields_ite (fun _ => h.value) fun _ => ?_
  refine yields_ite (fun _ => h.atom fun _ => (yields_any _).bind fun _ _ => ?_) fun _ => ?_
  · exact yields_ok (.mark rfl)
  refine yields_ite (fun _ => h.atom fun _ => (yields_any _).bind fun _ _ => ?_) fun _ => ?_
  · exact yields_ok (.mark rfl)
  refine yields_ite (fun _ => h.atom tidy_tag) fun _ => ?_
  refine yields_ite (fun _ => h.block false) fun _ => ?_
  refine yields_ite (fun _ => h.block true) fun _ => ?_
  refine yields_ite (fun _ => h.quoted false) fun _ => ?_
  refine yields_ite (fun _ => h.quoted true) fun _ => ?_
  exact yields_ite (fun _ => h.plain) fun _ => yields_error

theorem Tidy.settle (h : Tidy l) : Yields Tidy l.settle :=
  (h.skipBlanks _).dropStale

theorem Tidy.act (h : Tidy l) {m : Lexer} {ended : Bool} (hact : l.act = .ok (m, ended)) :
    Tidy m := by
  unfold Lexer.act at hact
  split at hact
  · obtain ⟨last, hlast, hm⟩ := exists_of_bind_ok hact
    cases hm
    exact (h.closeBlocks (-1)).dropPending _ hlast
  · obtain ⟨next, hnext, hm⟩ := exists_of_bind_ok hact
    cases hm
    exact h.readToken _ _ hnext

/-- By induction on the fuel: every token that is read is tidy. -/
theorem Tidy.readAll (h : Tidy l) (fuel : Nat) : ∀ t ∈ (readAll fuel l).1, t.Tidy := by
  induction fuel generalizing l with
  | zero => exact h
  | succ fuel ih =>
      rw [readAll_succ]
      have hstep {m : Lexer} {ended : Bool}
          (hm : (l.settle.bind fun l => (l.closeBlocks l.cursor.column).act) = .ok (m, ended)) :
          Tidy m := by
        obtain ⟨n, hn, hact⟩ := exists_of_bind_ok hm
        exact ((h.settle n hn).closeBlocks _).act hact
      split
      · exact h
      · exact hstep ‹_›
      · exact ih (hstep ‹_›)

end Lexer

theorem Token.tidy_read (text : String) : ∀ t ∈ (Token.read text).1, t.Tidy := by
  unfold Token.read
  dsimp only
  split
  · exact Lexer.Tidy.readAll (by simp [Lexer.Tidy]) _
  · simp

/-! ## Reading nodes -/

/-- No tag is among the tokens that are left, and the nodes that have names have none. -/
structure Reading.Untagged (r : Reading) : Prop where
  tokens : ∀ t ∈ r.tokens, t.Tidy ∧ t.isTag = false
  named : ∀ entry ∈ r.named, entry.2.Untagged

/-- What is taken off the front leaves no tag either. -/
theorem Reading.Untagged.tail {r : Reading} (h : r.Untagged) :
    Reading.Untagged { r with tokens := r.tokens.tail } where
  tokens t ht := h.tokens t (List.mem_of_mem_tail ht)
  named := h.named

namespace Reader

variable {α β : Type} {P : α -> Prop} {Q : β -> Prop}

/-- What is read where no tag is has a property, and no tag is left. -/
def Gives (P : α -> Prop) (x : Reader α) : Prop :=
  ∀ r a s, Reading.Untagged r -> x r = .ok (a, s) -> P a ∧ s.Untagged

theorem gives_pure {a : α} (h : P a) : Gives P (pure a) := by
  rintro r _ _ hr ⟨⟩
  exact ⟨h, hr⟩

theorem gives_fail (flaw : Flaw) : Gives P (fail flaw) :=
  fun _ _ _ _ h => nomatch h

theorem Gives.bind {x : Reader α} {f : α -> Reader β} (hx : Gives P x)
    (hf : ∀ a, P a -> Gives Q (f a)) : Gives Q (x >>= f) := by
  intro r b t hr h
  obtain ⟨⟨a, s⟩, hxr, hfs⟩ := exists_of_bind_ok h
  obtain ⟨ha, hs⟩ := hx r a s hr hxr
  exact hf a ha s b t hs hfs

theorem Gives.map {x : Reader α} {f : α -> β} (hx : Gives P x) (hf : ∀ a, P a -> Q (f a)) :
    Gives Q (f <$> x) := by
  intro r b t hr h
  obtain ⟨⟨a, s⟩, hxr, hfs⟩ := exists_of_bind_ok h
  obtain ⟨ha, hs⟩ := hx r a s hr hxr
  cases hfs
  exact ⟨hf a ha, hs⟩

theorem gives_ite {p : Prop} [Decidable p] {x y : Reader α} (hx : p -> Gives P x)
    (hy : ¬p -> Gives P y) : Gives P (if p then x else y) := by
  split
  · exact hx ‹p›
  · exact hy ‹¬p›

theorem gives_peek : Gives (fun t? => ∀ t, t? = some t -> t.Tidy ∧ t.isTag = false) peek := by
  intro r a s hr h
  unfold peek at h
  split at h
  · cases h
  · cases h
    refine ⟨?_, hr⟩
    rintro _ ⟨⟩
  · rename_i t _ htokens
    cases h
    refine ⟨?_, hr⟩
    rintro _ ⟨⟩
    exact hr.tokens t (htokens ▸ List.mem_cons_self)

theorem gives_drop : Gives (fun _ => True) drop := by
  rintro r _ _ hr ⟨⟩
  exact ⟨trivial, hr.tail⟩

theorem gives_get : Gives (fun _ => True) (get : Reader Reading) := by
  rintro r _ _ hr ⟨⟩
  exact ⟨trivial, hr⟩

theorem gives_sees (ts : List Token) : Gives (fun _ => True) (sees ts) := by
  refine gives_peek.bind fun t? _ => ?_
  split <;> exact gives_pure trivial

theorem gives_accept (t : Token) : Gives (fun _ => True) (accept t) := by
  refine (gives_sees [t]).bind fun seen _ => gives_ite (fun _ => ?_) fun _ => gives_pure trivial
  exact gives_drop.bind fun _ _ => gives_pure trivial

theorem gives_expect (t : Token) : Gives (fun _ => True) (expect t) := by
  refine (gives_accept t).bind fun accepted _ => gives_ite (fun _ => gives_fail _) fun _ => ?_
  exact gives_pure trivial

theorem gives_properties : Gives (fun found => found.2 = none) properties := by
  refine gives_peek.bind fun t? ht => ?_
  split
  · refine gives_drop.bind fun _ _ => gives_peek.bind fun t? ht => ?_
    split
    · cases (ht _ rfl).2
    · exact gives_pure rfl
  · cases (ht _ rfl).2
  · exact gives_pure rfl

theorem gives_openName (name? : Option String) : Gives (fun _ => True) (openName name?) := by
  intro r _ s hr h
  unfold openName at h
  split at h
  · cases h
    exact ⟨trivial, hr⟩
  · split at h
    · cases h
    · cases h
      exact ⟨trivial, ⟨hr.tokens, hr.named⟩⟩

theorem gives_closeName (name? : Option String) {n : Node} (hn : n.Untagged) :
    Gives Node.Untagged (closeName name? n) := by
  intro r _ s hr h
  unfold closeName at h
  split at h
  · cases h
    exact ⟨hn, hr⟩
  · cases h
    refine ⟨.reference, ⟨hr.tokens, fun entry hentry => ?_⟩⟩
    rcases List.mem_append.1 hentry with hold | hnew
    · exact hr.named entry hold
    · rw [List.mem_singleton.1 hnew]
      exact hn

theorem untagged_scalarOf {text : String} {plain sound : Bool}
    (h : Token.Tidy (.scalar text plain sound)) : (scalarOf none text plain sound).Untagged := by
  cases h with
  | plain ends => exact .plain ends
  | quoted => exact .quoted
  | mark scalar => cases scalar

theorem gives_absent (name? : Option String) : Gives Node.Untagged (absent name? none) :=
  gives_ite (fun _ => gives_fail _) fun _ => gives_pure (untagged_scalarOf (.plain (by simp)))

/-- Keys and values without tags. -/
def PairsUntagged (pairs : List (Node × Node)) : Prop :=
  ∀ pair ∈ pairs, pair.1.Untagged ∧ pair.2.Untagged

theorem PairsUntagged.mapping {pairs : List (Node × Node)} (h : PairsUntagged pairs) :
    (Node.mapping .map pairs).Untagged :=
  .mapping (fun pair hpair => (h pair hpair).1) fun pair hpair => (h pair hpair).2

/-- What the readers of nodes and of lists of nodes give with some fuel. -/
structure GivesUntagged (fuel : Nat) : Prop where
  node : ∀ block bare, Gives Node.Untagged (node block bare fuel)
  nodeUnless : ∀ stops block bare, Gives Node.Untagged (nodeUnless stops block bare fuel)
  entries : Gives (∀ n ∈ ·, n.Untagged) (entries fuel)
  bareEntries : Gives (∀ n ∈ ·, n.Untagged) (bareEntries fuel)
  pairs : Gives PairsUntagged (pairs fuel)
  flowItems : ∀ first, Gives (∀ n ∈ ·, n.Untagged) (flowItems first fuel)
  flowPairs : ∀ first, Gives PairsUntagged (flowPairs first fuel)

section

variable {fuel : Nat}

theorem gives_node (h : GivesUntagged fuel) (block bare : Bool) :
    Gives Node.Untagged (node block bare (fuel + 1)) := by
  rw [node]
  refine gives_peek.bind fun t? _ => ?_
  split
  · refine gives_drop.bind fun _ _ => gives_get.bind fun r _ => ?_
    exact gives_ite (fun _ => gives_pure .reference) fun _ => gives_fail _
  · refine gives_properties.bind fun found hfound => ?_
    obtain ⟨name?, tag?⟩ := found
    cases hfound
    refine (gives_openName name?).bind fun _ _ => gives_peek.bind fun t? ht => ?_
    have hclose {x : Reader Node} (hx : Gives Node.Untagged x) :
        Gives Node.Untagged (x >>= fun content => closeName name? content) :=
      hx.bind fun _ hn => gives_closeName name? hn
    have habsent := hclose (gives_absent name?)
    dsimp only
    split
    · exact gives_ite (fun _ => hclose (h.bareEntries.map fun _ => .sequence)) fun _ => habsent
    · have hscalar := gives_pure (untagged_scalarOf (ht _ rfl).1)
      exact gives_drop.bind fun _ _ => hclose hscalar
    · exact gives_drop.bind fun _ _ => hclose ((h.flowItems true).map fun _ => .sequence)
    · have hmapping := (h.flowPairs true).map fun _ => PairsUntagged.mapping
      exact gives_drop.bind fun _ _ => hclose hmapping
    · refine gives_ite (fun _ => gives_drop.bind fun _ _ => ?_) fun _ => habsent
      exact hclose (h.entries.map fun _ => .sequence)
    · refine gives_ite (fun _ => gives_drop.bind fun _ _ => ?_) fun _ => habsent
      exact hclose (h.pairs.map fun _ => PairsUntagged.mapping)
    · exact habsent

theorem gives_nodeUnless (h : GivesUntagged fuel) (stops : List Token) (block bare : Bool) :
    Gives Node.Untagged (nodeUnless stops block bare (fuel + 1)) := by
  rw [nodeUnless]
  exact (gives_sees stops).bind fun _ _ =>
    gives_ite (fun _ => gives_pure Node.untagged_empty) fun _ => h.node block bare

/-- The value behind a key, if one is marked, and what is read then. -/
theorem gives_value (h : GivesUntagged fuel) (stops : List Token) (block bare : Bool)
    {f : Node -> Reader β} (hf : ∀ v, v.Untagged -> Gives Q (f v)) :
    Gives Q (accept .value >>= fun told =>
      if told then nodeUnless stops block bare fuel >>= f else pure .empty >>= f) := by
  refine (gives_accept .value).bind fun _ _ => gives_ite (fun _ => ?_) fun _ => ?_
  · exact (h.nodeUnless stops block bare).bind hf
  · exact (gives_pure Node.untagged_empty).bind hf

/-- What is read behind a comma, which the first item of a list does not need. -/
theorem gives_next (first : Bool) {x : Unit -> Reader β} (hx : Gives Q (x ())) :
    Gives Q (if !first then expect .comma >>= x else x ()) :=
  gives_ite (fun _ => (gives_expect .comma).bind fun _ _ => hx) fun _ => hx

theorem gives_entries (h : GivesUntagged fuel) :
    Gives (∀ n ∈ ·, n.Untagged) (entries (fuel + 1)) := by
  rw [entries]
  refine (gives_accept .entry).bind fun _ _ => gives_ite (fun _ => ?_) fun _ => ?_
  · refine (h.nodeUnless _ true false).bind fun item hitem => h.entries.bind fun rest hrest => ?_
    exact gives_pure (List.forall_mem_cons.2 ⟨hitem, hrest⟩)
  · exact (gives_expect .blockEnd).bind fun _ _ => gives_pure (List.forall_mem_nil _)

theorem gives_bareEntries (h : GivesUntagged fuel) :
    Gives (∀ n ∈ ·, n.Untagged) (bareEntries (fuel + 1)) := by
  rw [bareEntries]
  refine (gives_accept .entry).bind fun _ _ => gives_ite (fun _ => ?_) fun _ => ?_
  · refine (h.nodeUnless _ true false).bind fun item hitem =>
      h.bareEntries.bind fun rest hrest => ?_
    exact gives_pure (List.forall_mem_cons.2 ⟨hitem, hrest⟩)
  · exact gives_pure (List.forall_mem_nil _)

theorem gives_pairs (h : GivesUntagged fuel) : Gives PairsUntagged (pairs (fuel + 1)) := by
  rw [pairs]
  refine (gives_accept .key).bind fun _ _ => gives_ite (fun _ => ?_) fun _ => ?_
  · refine (h.nodeUnless _ true true).bind fun k hk => gives_value h _ _ _ fun v hv => ?_
    exact h.pairs.bind fun rest hrest => gives_pure (List.forall_mem_cons.2 ⟨⟨hk, hv⟩, hrest⟩)
  · exact (gives_expect .blockEnd).bind fun _ _ => gives_pure (List.forall_mem_nil _)

theorem gives_flowItems (h : GivesUntagged fuel) (first : Bool) :
    Gives (∀ n ∈ ·, n.Untagged) (flowItems first (fuel + 1)) := by
  have hcons {n : Node} (hn : n.Untagged) :
      Gives (∀ n ∈ ·, n.Untagged) (flowItems false fuel >>= fun rest => pure (n :: rest)) :=
    (h.flowItems false).bind fun rest hrest => gives_pure (List.forall_mem_cons.2 ⟨hn, hrest⟩)
  rw [flowItems]
  refine (gives_accept _).bind fun _ _ => gives_ite (fun _ => gives_pure (List.forall_mem_nil _))
    fun _ => gives_next first ?_
  refine (gives_accept _).bind fun _ _ => gives_ite (fun _ => gives_pure (List.forall_mem_nil _))
    fun _ => (gives_accept _).bind fun _ _ => gives_ite (fun _ => ?_) fun _ => ?_
  · refine (h.nodeUnless _ false false).bind fun k hk => gives_value h _ _ _ fun v hv => ?_
    exact hcons (PairsUntagged.mapping (List.forall_mem_singleton.2 ⟨hk, hv⟩))
  · exact (h.node false false).bind fun item hitem => hcons hitem

theorem gives_flowPairs (h : GivesUntagged fuel) (first : Bool) :
    Gives PairsUntagged (flowPairs first (fuel + 1)) := by
  have hcons {k v : Node} (hk : k.Untagged) (hv : v.Untagged) :
      Gives PairsUntagged (flowPairs false fuel >>= fun rest => pure ((k, v) :: rest)) :=
    (h.flowPairs false).bind fun rest hrest =>
      gives_pure (List.forall_mem_cons.2 ⟨⟨hk, hv⟩, hrest⟩)
  rw [flowPairs]
  refine (gives_accept _).bind fun _ _ => gives_ite (fun _ => gives_pure (List.forall_mem_nil _))
    fun _ => gives_next first ?_
  refine (gives_accept _).bind fun _ _ => gives_ite (fun _ => gives_pure (List.forall_mem_nil _))
    fun _ => (gives_accept _).bind fun _ _ => gives_ite (fun _ => ?_) fun _ => ?_
  · refine (h.nodeUnless _ false false).bind fun k hk => gives_value h _ _ _ fun v hv => ?_
    exact hcons hk hv
  · exact (h.node false false).bind fun k hk => hcons hk Node.untagged_empty

end

/-- By induction on the fuel, which every reader hands on to the others less one. -/
theorem givesUntagged (fuel : Nat) : GivesUntagged fuel := by
  induction fuel with
  | zero =>
      exact
        { node := fun _ _ => gives_fail _
          nodeUnless := fun _ _ _ => gives_fail _
          entries := gives_fail _
          bareEntries := gives_fail _
          pairs := gives_fail _
          flowItems := fun _ => gives_fail _
          flowPairs := fun _ => gives_fail _ }
  | succ fuel ih =>
      exact
        { node := gives_node ih
          nodeUnless := gives_nodeUnless ih
          entries := gives_entries ih
          bareEntries := gives_bareEntries ih
          pairs := gives_pairs ih
          flowItems := gives_flowItems ih
          flowPairs := gives_flowPairs ih }

/-! ## Documents -/

theorem gives_skipAll (t : Token) (fuel : Nat) : Gives (fun _ => True) (skipAll t fuel) := by
  induction fuel with
  | zero => exact gives_pure trivial
  | succ fuel ih =>
      exact (gives_accept t).bind fun _ _ => gives_ite (fun _ => ih) fun _ => gives_pure trivial

theorem gives_directives (fuel : Nat) (told : Bool) (handles : List (String × String)) :
    Gives (fun _ => True) (directives fuel told handles) := by
  induction fuel generalizing told handles with
  | zero => exact gives_pure trivial
  | succ fuel ih =>
      rw [directives]
      refine gives_peek.bind fun t? _ => ?_
      split
      · refine gives_drop.bind fun _ _ => ?_
        split
        · exact gives_ite (fun _ => gives_fail _) fun _ => ih true handles
        · exact gives_ite (fun _ => gives_fail _) fun _ => ih told _
        · exact ih told handles
      · exact gives_pure trivial

theorem gives_handles {f : Reading -> List (String × String)} :
    Gives (fun _ => True)
      (modify fun r => { r with handles := f r } : Reader PUnit) := by
  rintro r _ _ hr ⟨⟩
  exact ⟨trivial, ⟨hr.tokens, hr.named⟩⟩

theorem gives_root? (fuel : Nat) : Gives (∀ n, · = some n -> n.Untagged) (root? fuel) := by
  have hsome {n : Node} (hn : n.Untagged) :
      Gives (∀ n, · = some n -> n.Untagged) (pure (some n) : Reader (Option Node)) := by
    refine gives_pure ?_
    rintro _ ⟨⟩
    exact hn
  have hnode := ((givesUntagged fuel).node true false).bind fun n hn => hsome hn
  unfold root?
  refine gives_peek.bind fun t? _ => gives_ite (fun _ => ?_) fun _ => ?_
  · refine (gives_skipAll _ _).bind fun _ _ => gives_peek.bind fun t? _ => gives_ite
      (fun _ => gives_pure ?_) fun _ => ?_
    · rintro _ ⟨⟩
    · refine (gives_directives _ _ _).bind fun handles _ => gives_handles.bind fun _ _ => ?_
      refine (gives_expect _).bind fun _ _ => gives_peek.bind fun t? _ => ?_
      exact gives_ite (fun _ => hsome Node.untagged_empty) fun _ => hnode
  · exact gives_handles.bind fun _ _ => hnode

theorem gives_document? (fuel : Nat) :
    Gives (∀ n, · = some n -> n.Untagged) (document? fuel) := by
  refine (gives_root? fuel).bind fun root? hroot => (gives_skipAll _ _).bind fun _ _ => ?_
  exact gives_peek.bind fun t? _ => gives_ite (fun _ => gives_fail _) fun _ => gives_pure hroot

end Reader

/-- A text in which no tag is written is a document of nodes without tags. -/
theorem Graph.untagged_read {text : String} {g : Graph}
    (htags : ∀ t ∈ (Token.read text).1, t.isTag = false) (h : Graph.read text = .ok (some g)) :
    g.root.Untagged ∧ ∀ entry ∈ g.named, entry.2.Untagged := by
  unfold Graph.read at h
  obtain ⟨⟨root?, r⟩, hread, hg⟩ := exists_of_bind_ok h
  have hstart : Reading.Untagged
      { tokens := (Token.read text).1.toList, flaw? := (Token.read text).2 } := by
    constructor
    case tokens =>
      intro t ht
      have hmem := Array.mem_toList_iff.1 ht
      exact ⟨Token.tidy_read text t hmem, htags t hmem⟩
    case named => exact List.forall_mem_nil _
  obtain ⟨hroot, hr⟩ := Reader.gives_document? _ _ _ _ hstart hread
  cases root? with
  | none => cases hg
  | some n =>
      cases hg
      exact ⟨hroot n rfl, hr.named⟩

end Clearance.Yaml
