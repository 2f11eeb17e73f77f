import Clearance.Proofs.Yaml.TreeTokens
import Clearance.Yaml.Node.Reader

/-!
# Nodes of a tree

The tokens of a tree are put together to the node that stands for it, whatever tokens follow.
-/

namespace Clearance.Yaml

/-- The same reading with other tokens ahead. -/
def Reading.withTokens (r : Reading) (ts : List Token) : Reading :=
  { r with tokens := ts }

namespace Reader

variable {α β : Type} {r s : Reading} {d : Token} {ts rest : List Token} {fuel : Nat}

/-! ## Steps -/

theorem bind_eq {x : Reader α} {f : α -> Reader β} {a : α} (h : x r = .ok (a, s)) :
    (x >>= f) r = f a s := by
  show StateT.bind x f r = f a s
  unfold StateT.bind
  rw [h]
  rfl

theorem map_eq {x : Reader α} (f : α -> β) {a : α} (h : x r = .ok (a, s)) :
    (f <$> x) r = .ok (f a, s) := by
  show StateT.map f x r = .ok (f a, s)
  unfold StateT.map
  rw [h]
  rfl

theorem sees_cons (stops : List Token) :
    sees stops (r.withTokens (d :: ts)) = .ok (stops.contains d, r.withTokens (d :: ts)) := rfl

theorem accept_self : accept d (r.withTokens (d :: ts)) = .ok (true, r.withTokens ts) := by
  rw [accept, bind_eq (sees_cons [d])]
  simp
  rfl

theorem accept_of_ne {d' : Token} (h : d ≠ d') :
    accept d' (r.withTokens (d :: ts)) = .ok (false, r.withTokens (d :: ts)) := by
  rw [accept, bind_eq (sees_cons [d'])]
  simp [h]
  rfl

/-! ## Kinds of nodes -/

theorem node_scalar (block bare : Bool) (text : String) (plain : Bool) :
    node block bare (fuel + 1) (r.withTokens (.scalar text plain true :: ts)) =
      .ok (scalarOf none text plain true, r.withTokens ts) := by
  rfl

theorem node_emptySequence (block bare : Bool) :
    node block bare (fuel + 2)
        (r.withTokens (.flowSequenceStart :: .flowSequenceEnd :: ts)) =
      .ok (.sequence .seq [], r.withTokens ts) := by
  rfl

theorem node_mapping (bare : Bool) {ps : List (Node × Node)}
    (h : pairs fuel (r.withTokens ts) = .ok (ps, s)) :
    node true bare (fuel + 1) (r.withTokens (.blockMappingStart :: ts)) =
      .ok (.mapping .map ps, s) := by
  have heq : node true bare (fuel + 1) (r.withTokens (.blockMappingStart :: ts)) =
      (Node.mapping .map <$> pairs fuel >>= closeName none) (r.withTokens ts) := rfl
  rw [heq, bind_eq (map_eq _ h)]
  rfl

theorem node_bareSequence {ns : List Node}
    (h : bareEntries fuel (r.withTokens (.entry :: ts)) = .ok (ns, s)) :
    node true true (fuel + 1) (r.withTokens (.entry :: ts)) = .ok (.sequence .seq ns, s) := by
  have heq : node true true (fuel + 1) (r.withTokens (.entry :: ts)) =
      (Node.sequence .seq <$> bareEntries fuel >>= closeName none)
        (r.withTokens (.entry :: ts)) := rfl
  rw [heq, bind_eq (map_eq _ h)]
  rfl

theorem nodeUnless_of_not_mem {stops : List Token} {block bare : Bool} (h : d ∉ stops) :
    nodeUnless stops block bare (fuel + 1) (r.withTokens (d :: ts)) =
      node block bare fuel (r.withTokens (d :: ts)) := by
  rw [nodeUnless, bind_eq (sees_cons stops)]
  simp [h]

theorem pairs_end :
    pairs (fuel + 1) (r.withTokens (.blockEnd :: ts)) = .ok ([], r.withTokens ts) := rfl

theorem pairs_cons {ks vs : List Token} {k v : Node} {ps : List (Node × Node)}
    (hk : nodeUnless [.key, .value, .blockEnd] true true fuel (r.withTokens ks) =
      .ok (k, r.withTokens (.value :: vs)))
    (hv : nodeUnless [.key, .value, .blockEnd] true true fuel (r.withTokens vs) =
      .ok (v, r.withTokens rest))
    (hrest : pairs fuel (r.withTokens rest) = .ok (ps, s)) :
    pairs (fuel + 1) (r.withTokens (.key :: ks)) = .ok ((k, v) :: ps, s) := by
  rw [pairs, bind_eq accept_self, if_pos rfl, bind_eq hk, bind_eq accept_self, if_pos rfl,
    bind_eq hv]
  dsimp only
  rw [bind_eq hrest]
  rfl

theorem bareEntries_end (h : d ≠ .entry) :
    bareEntries (fuel + 1) (r.withTokens (d :: ts)) = .ok ([], r.withTokens (d :: ts)) := by
  rw [bareEntries, bind_eq (accept_of_ne h)]
  rfl

theorem bareEntries_cons {n : Node} {ns : List Node}
    (hn : nodeUnless [.entry, .key, .value, .blockEnd] true false fuel (r.withTokens ts) =
      .ok (n, r.withTokens rest))
    (hrest : bareEntries fuel (r.withTokens rest) = .ok (ns, s)) :
    bareEntries (fuel + 1) (r.withTokens (.entry :: ts)) = .ok (n :: ns, s) := by
  rw [bareEntries, bind_eq accept_self, if_pos rfl, bind_eq hn, bind_eq hrest]
  rfl

end Reader

namespace Tree

open Reader (node nodeUnless pairs bareEntries)

/-! ## Nodes -/

mutual

/-- The node that stands for a tree. -/
def toNode : Tree -> Node
  | .flag b => .scalar .bool (if b then "true" else "false") true
  | .text s => .scalar .str s true
  | .list items => .sequence .seq (itemNodes items)
  | .record fields => .mapping .map (fieldNodes fields)

def itemNodes : List Tree -> List Node
  | [] => []
  | t :: rest => toNode t :: itemNodes rest

def fieldNodes : List (String × Tree) -> List (Node × Node)
  | [] => []
  | (name, t) :: rest => (.scalar .str name true, toNode t) :: fieldNodes rest

end

/-- A tree is read as its node.  A list has no end of its own: something else must follow. -/
def Parsed (t : Tree) : Prop :=
  ∀ {bare : Bool} {fuel : Nat} {r : Reading} {d : Token} {rest : List Token},
    (t.isList = true -> bare = true ∧ d ≠ .entry) -> 4 * t.tokens.length + 2 ≤ fuel ->
    node true bare fuel (r.withTokens (t.tokens ++ d :: rest)) =
      .ok (t.toNode, r.withTokens (d :: rest))

/-- No tree begins like the end of what it stands in. -/
theorem exists_tokens_eq_cons (t : Tree) :
    ∃ d more, t.tokens = d :: more ∧ d ∉ [Token.key, .value, .blockEnd] ∧
      (t.isList = false -> d ≠ .entry) := by
  cases t with
  | flag b => exact ⟨_, _, by rw [tokens], by simp, by simp⟩
  | text s => exact ⟨_, _, by rw [tokens], by simp, by simp⟩
  | list items =>
      cases items with
      | nil => exact ⟨_, _, by rw [tokens], by simp, by simp⟩
      | cons t rest => exact ⟨_, _, by rw [tokens, itemsTokens]; rfl, by simp, by simp [isList]⟩
  | record fields => exact ⟨_, _, by rw [tokens]; rfl, by simp, by simp⟩

variable {r : Reading} {d : Token} {fuel : Nat} {rest : List Token}

theorem Parsed.nodeUnless_eq {t : Tree} (h : Parsed t) {stops : List Token} {bare : Bool}
    (hstops : ∀ e more, t.tokens = e :: more -> e ∉ stops)
    (hlist : t.isList = true -> bare = true ∧ d ≠ .entry)
    (hfuel : 4 * t.tokens.length + 3 ≤ fuel) :
    nodeUnless stops true bare fuel (r.withTokens (t.tokens ++ d :: rest)) =
      .ok (t.toNode, r.withTokens (d :: rest)) := by
  obtain ⟨fuel, rfl⟩ : ∃ k, fuel = k + 1 := ⟨fuel - 1, by omega⟩
  obtain ⟨e, more, heq, -⟩ := exists_tokens_eq_cons t
  have hnode := @h bare fuel r d rest hlist (by omega)
  rw [heq, List.cons_append] at hnode ⊢
  rw [Reader.nodeUnless_of_not_mem (hstops e more heq), hnode]

theorem flag_parsed (b : Bool) : Parsed (.flag b) := by
  intro bare fuel r d rest _ hfuel
  obtain ⟨fuel, rfl⟩ : ∃ k, fuel = k + 1 := ⟨fuel - 1, by omega⟩
  have htag : Tag.ofPlain (if b then "true" else "false") = .bool := by cases b <;> decide
  rw [tokens, List.singleton_append, Reader.node_scalar, toNode, Reader.scalarOf]
  simp only [Bool.and_self, if_true, htag]

theorem text_parsed (s : String) : Parsed (.text s) := by
  intro bare fuel r d rest _ hfuel
  obtain ⟨fuel, rfl⟩ : ∃ k, fuel = k + 1 := ⟨fuel - 1, by omega⟩
  rw [tokens, List.singleton_append, Reader.node_scalar, toNode, Reader.scalarOf]
  cases hstyle : Style.ofText s == .plain with
  | true =>
      have htag := (Style.of_eq_plain (beq_iff_eq.1 hstyle)).2
      simp only [Bool.and_self, if_true, htag]
  | false => simp only [Bool.false_and, Bool.false_eq_true, if_false]

/-- The fields of a record are read up to the end of its block. -/
theorem fields_parsed {fields : List (String × Tree)} (hnames : ∀ f ∈ fields, FieldName f.1)
    (hfields : ∀ f ∈ fields, Parsed f.2) (hfuel : 4 * (fieldsTokens fields).length + 1 ≤ fuel) :
    pairs fuel (r.withTokens (fieldsTokens fields ++ .blockEnd :: rest)) =
      .ok (fieldNodes fields, r.withTokens rest) := by
  obtain ⟨fuel, rfl⟩ : ∃ k, fuel = k + 1 := ⟨fuel - 1, by omega⟩
  induction fields generalizing fuel with
  | nil => exact Reader.pairs_end
  | cons f fields ih =>
      obtain ⟨name, t⟩ := f
      obtain ⟨hname, hnames'⟩ := List.forall_mem_cons.1 hnames
      obtain ⟨ht, hfields'⟩ := List.forall_mem_cons.1 hfields
      simp only [fieldsTokens, List.length_append, List.length_cons] at hfuel
      obtain ⟨fuel, rfl⟩ : ∃ k, fuel = k + 2 := ⟨fuel - 2, by omega⟩
      -- the next field or the end of the block
      obtain ⟨d, more, hnext, hd⟩ : ∃ d more,
          fieldsTokens fields ++ Token.blockEnd :: rest = d :: more ∧ d ≠ .entry := by
        cases fields with
        | nil => exact ⟨_, _, rfl, by simp⟩
        | cons f fields => exact ⟨_, _, rfl, by simp⟩
      have hkey : nodeUnless [.key, .value, .blockEnd] true true (fuel + 2)
          (r.withTokens (.scalar name true true :: .value :: (t.tokens ++ d :: more))) =
          .ok (.scalar .str name true, r.withTokens (.value :: (t.tokens ++ d :: more))) := by
        rw [Reader.nodeUnless_of_not_mem (by simp), Reader.node_scalar, Reader.scalarOf]
        simp only [Bool.and_self, if_true, hname.tag]
      have hvalue := @Parsed.nodeUnless_eq r d (fuel + 2) more t ht [.key, .value, .blockEnd] true
        (by
          obtain ⟨e', more', heq', he', -⟩ := exists_tokens_eq_cons t
          intro e more heq
          obtain ⟨rfl, -⟩ := List.cons.inj (heq.symm.trans heq')
          exact he')
        (fun _ => ⟨rfl, hd⟩) (by omega)
      have hrest := ih hnames' hfields' (fuel + 1) (by omega)
      rw [hnext] at hrest
      rw [fieldsTokens, fieldNodes]
      simp only [List.cons_append, List.append_assoc, hnext]
      exact Reader.pairs_cons hkey hvalue hrest

/-- The items of a list are read up to something that is no item. -/
theorem items_parsed {items : List Tree} (hflat : ∀ t ∈ items, t.isList = false)
    (hitems : ∀ t ∈ items, Parsed t) (hd : d ≠ .entry)
    (hfuel : 4 * (itemsTokens items).length + 1 ≤ fuel) :
    bareEntries fuel (r.withTokens (itemsTokens items ++ d :: rest)) =
      .ok (itemNodes items, r.withTokens (d :: rest)) := by
  obtain ⟨fuel, rfl⟩ : ∃ k, fuel = k + 1 := ⟨fuel - 1, by omega⟩
  induction items generalizing fuel with
  | nil => exact Reader.bareEntries_end hd
  | cons t items ih =>
      obtain ⟨hlist, hflat'⟩ := List.forall_mem_cons.1 hflat
      obtain ⟨ht, hitems'⟩ := List.forall_mem_cons.1 hitems
      simp only [itemsTokens, List.length_append, List.length_cons] at hfuel
      obtain ⟨fuel, rfl⟩ : ∃ k, fuel = k + 1 := ⟨fuel - 1, by omega⟩
      obtain ⟨d', more, hnext⟩ : ∃ d' more, itemsTokens items ++ d :: rest = d' :: more := by
        cases items with
        | nil => exact ⟨_, _, rfl⟩
        | cons t items => exact ⟨_, _, rfl⟩
      have hitem := @Parsed.nodeUnless_eq r d' (fuel + 1) more t ht
        [.entry, .key, .value, .blockEnd] false
        (by
          obtain ⟨e', more', heq', he', hentry⟩ := exists_tokens_eq_cons t
          intro e more heq
          obtain ⟨rfl, -⟩ := List.cons.inj (heq.symm.trans heq')
          exact List.not_mem_cons_of_ne_of_not_mem (hentry hlist) he')
        (by simp [hlist]) (by omega)
      have hrest := ih hflat' hitems' fuel (by omega)
      rw [hnext] at hrest
      rw [itemsTokens, itemNodes]
      simp only [List.cons_append, List.append_assoc, hnext]
      exact Reader.bareEntries_cons hitem hrest

/-- A record has an end of its own: anything may follow, or nothing. -/
theorem record_parsed {fields : List (String × Tree)} (hnames : ∀ f ∈ fields, FieldName f.1)
    (hfields : ∀ f ∈ fields, Parsed f.2) (bare : Bool)
    (hfuel : 4 * (Tree.record fields).tokens.length + 2 ≤ fuel) :
    node true bare fuel (r.withTokens ((Tree.record fields).tokens ++ rest)) =
      .ok ((Tree.record fields).toNode, r.withTokens rest) := by
  obtain ⟨fuel, rfl⟩ : ∃ k, fuel = k + 1 := ⟨fuel - 1, by omega⟩
  rw [tokens] at hfuel ⊢
  simp only [List.length_append, List.length_cons] at hfuel
  simp only [List.cons_append, List.append_assoc, List.nil_append]
  exact Reader.node_mapping bare (fields_parsed hnames hfields (by omega))

/-- Regular trees are read as their nodes. -/
theorem regular_parsed {n : Nat} {t : Tree} (h : Regular n t) : Parsed t := by
  induction h with
  | flag n b => exact flag_parsed b
  | text n s => exact text_parsed s
  | @list n items hflat _ ih =>
      intro bare fuel r d rest hlist hfuel
      obtain ⟨rfl, hd⟩ := hlist rfl
      cases items with
      | nil =>
          obtain ⟨fuel, rfl⟩ : ∃ k, fuel = k + 2 := ⟨fuel - 2, by omega⟩
          rw [tokens]
          exact Reader.node_emptySequence true true
      | cons t items =>
          obtain ⟨fuel, rfl⟩ : ∃ k, fuel = k + 1 := ⟨fuel - 1, by omega⟩
          rw [tokens] at hfuel ⊢
          exact Reader.node_bareSequence (items_parsed hflat ih hd (by omega))
  | @record n fields _ _ hnames _ ih =>
      intro bare fuel r d rest _ hfuel
      exact record_parsed hnames ih bare hfuel

/-- A record that is all of the tokens is the root of the document. -/
theorem document_parsed {n : Nat} {fields : List (String × Tree)}
    (h : Regular n (.record fields)) (hfuel : 4 * (Tree.record fields).tokens.length + 2 ≤ fuel) :
    Reader.document? fuel { tokens := (Tree.record fields).tokens, flaw? := none } =
      .ok (some (Tree.record fields).toNode,
        { tokens := [], flaw? := none, handles := Reader.standardHandles }) := by
  cases h with
  | @record n _ _ _ hnames hregular =>
      let start : Reading := { tokens := [], flaw? := none, handles := Reader.standardHandles }
      have hnode := @record_parsed start fuel [] fields hnames
        (fun f hf => regular_parsed (hregular f hf)) false hfuel
      have hroot : Reader.root? fuel { tokens := (Tree.record fields).tokens, flaw? := none } =
          (node true false fuel >>= fun n => pure (some n))
            (start.withTokens ((Tree.record fields).tokens ++ [])) := by
        rw [List.append_nil, tokens]
        rfl
      have hskip : Reader.skipAll .documentEnd fuel (start.withTokens []) =
          .ok ((), start.withTokens []) := by
        cases fuel <;> rfl
      rw [Reader.document?, Reader.bind_eq (hroot.trans (Reader.bind_eq hnode)),
        Reader.bind_eq hskip]
      rfl

end Tree

end Clearance.Yaml
