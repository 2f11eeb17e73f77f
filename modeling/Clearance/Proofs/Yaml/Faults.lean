import Clearance.Config

/-!
# Where the faults of a document come from

A document that can be read may still have no value.  Then its structure is flawed, or one of its
nodes is at fault: a scalar, or a mapping that stands for a scalar, whose text does not fit its tag.
What is told of the document is told of that node.
-/

namespace Clearance.Yaml

/-! ## Results and their faults -/

namespace Built

variable {α β : Type} {P : ContentFault -> Prop}

/-- A result, or a fault of a kind. -/
def Within (P : ContentFault -> Prop) (b : Built α) : Prop :=
  ∀ level f, b = .error (level, f) -> P f

theorem within_ok (a : α) : Within P (.ok a) :=
  fun _ _ h => nomatch h

theorem within_fail {f : ContentFault} (h : P f) (level : Nat) :
    Within P (fail level f : Built α) := by
  intro _ _ heq
  cases heq
  exact h

theorem Within.deeper {b : Built α} (h : Within P b) : Within P (deeper b) := by
  cases b with
  | ok a => exact within_ok a
  | error e => exact within_fail (h e.1 e.2 rfl) (e.1 + 1)

theorem Within.map {b : Built α} (h : Within P b) (f : α -> β) : Within P (b.map f) := by
  cases b with
  | ok a => exact within_ok (f a)
  | error e => exact within_fail (h e.1 e.2 rfl) e.1

theorem Within.bind {b : Built α} {f : α -> Built β} (h : Within P b)
    (hf : ∀ a, b = .ok a -> Within P (f a)) : Within P (b.bind f) := by
  cases b with
  | ok a => exact hf a rfl
  | error e => exact within_fail (h e.1 e.2 rfl) e.1

theorem Within.app {f : Built (α -> β)} {a : Built α} (hf : Within P f) (ha : Within P a) :
    Within P (app f a) := by
  cases f with
  | ok g =>
      cases a with
      | ok x => exact within_ok (g x)
      | error e => exact within_fail (ha e.1 e.2 rfl) e.1
  | error e =>
      cases a with
      | ok x => exact within_fail (hf e.1 e.2 rfl) e.1
      | error e' =>
          by_cases hlevel : e'.1 < e.1
          · rw [Built.app, if_pos hlevel]
            exact within_fail (ha e'.1 e'.2 rfl) e'.1
          · rw [Built.app, if_neg hlevel]
            exact within_fail (hf e.1 e.2 rfl) e.1

theorem within_all {bs : List (Built α)} (h : ∀ b ∈ bs, Within P b) : Within P (all bs) := by
  induction bs with
  | nil => exact within_ok []
  | cons b rest ih =>
      obtain ⟨hb, hrest⟩ := List.forall_mem_cons.1 h
      exact (hb.map List.cons).app (ih hrest)

/-- What is in a list that is built is in one of the lists that it is built of. -/
theorem mem_of_all_eq_ok {bs : List (Built α)} {as : List α} (h : all bs = .ok as) {a : α}
    (ha : a ∈ as) : .ok a ∈ bs := by
  induction bs generalizing as with
  | nil =>
      cases h
      cases ha
  | cons b rest ih =>
      cases b with
      | error e => cases hrest : all rest <;> rw [all, hrest] at h <;> cases h
      | ok first =>
          cases hrest : all rest with
          | error e =>
              rw [all, hrest] at h
              cases h
          | ok others =>
              rw [all, hrest] at h
              cases h
              cases List.mem_cons.1 ha with
              | inl heq => exact heq ▸ List.mem_cons_self
              | inr hin => exact List.mem_cons_of_mem _ (ih hrest hin)

end Built

open Built (Within)

/-- The key and the value of an entry are results, or have faults of a kind. -/
def BuiltEntry.Within (P : ContentFault -> Prop) (entry : BuiltEntry) : Prop :=
  Built.Within P entry.1 ∧ Built.Within P entry.2

/-- So are the entries of a mapping, and every one of them. -/
structure EntriesWithin (P : ContentFault -> Prop) (b : Built (List BuiltEntry)) : Prop where
  whole : Within P b
  each : ∀ entries, b = .ok entries -> ∀ entry ∈ entries, BuiltEntry.Within P entry

namespace Part

/-! ## What is made of parts -/

section

variable {P : ContentFault -> Prop}

theorem within_keyOf {key : Built Value} (h : Within P key) (hkey : P (.flaw .unhashableKey)) :
    Within P (keyOf key) := by
  cases key with
  | error e => exact h
  | ok v =>
      rw [keyOf]
      cases v.isHashable with
      | true => exact Built.within_ok v
      | false => exact Built.within_fail hkey 1

theorem within_dict {entries : List BuiltEntry} (h : ∀ entry ∈ entries, BuiltEntry.Within P entry)
    (hkey : P (.flaw .unhashableKey)) : Within P (dict entries) := by
  refine Built.Within.map (Built.within_all ?_) _
  intro b hb
  obtain ⟨entry, hentry, rfl⟩ := List.mem_map.1 hb
  obtain ⟨hk, hv⟩ := h entry hentry
  exact ((within_keyOf hk hkey).map Prod.mk).app hv

theorem within_single {pairs? : Option (List BuiltEntry)}
    (h : ∀ pairs, pairs? = some pairs -> ∀ entry ∈ pairs, BuiltEntry.Within P entry)
    (hkind : P (.flaw .wrongKind)) : Within P (single pairs?) := by
  unfold single
  split
  · rename_i k v
    obtain ⟨hk, hv⟩ := h _ rfl (k, v) List.mem_cons_self
    exact (Built.Within.map hk _).app hv
  · exact Built.within_fail hkind 1

theorem within_scalarValue {tag : Tag} {text? : Option (Except ContentFault (String × Bool))}
    (hkind : P (.flaw .wrongKind)) (herror : ∀ f, text? = some (.error f) -> P f)
    (hmoment : ∀ text sound, text? = some (.ok (text, sound)) -> tag = .timestamp ->
      P .momentKind)
    (hscalar : ∀ text sound f, text? = some (.ok (text, sound)) ->
      Content.scalar tag text sound = .error f -> P f) :
    Within P (scalarValue tag text?) := by
  unfold scalarValue
  split
  · exact Built.within_fail hkind 0
  · rename_i f
    exact Built.within_fail (herror f rfl) 0
  · rename_i text sound
    split
    · rename_i htag
      exact Built.within_fail (hmoment text sound rfl htag) 0
    · cases hvalue : Content.scalar tag text sound with
      | ok v => exact Built.within_ok v
      | error f => exact Built.within_fail (hscalar text sound f rfl hvalue) 0

/-- What a part hands on is a result, or has faults of a kind. -/
structure Within (P : ContentFault -> Prop) (p : Part) : Prop where
  value : Built.Within P p.value
  entries : ∀ b, p.entries? = some b -> EntriesWithin P b
  pairs : ∀ pairs, p.pairs? = some pairs -> ∀ entry ∈ pairs, BuiltEntry.Within P entry
  items : ∀ items, p.items? = some items -> ∀ item ∈ items, ∀ b, item.2 = some b ->
    EntriesWithin P b

theorem entriesWithin_fail {f : ContentFault} (h : P f) (level : Nat) :
    EntriesWithin P (Built.fail level f) where
  whole := Built.within_fail h level
  each := fun _ heq => nomatch heq

/-- Lists of entries that are put together, with other entries beside them. -/
theorem entriesWithin_joined {α : Type} {items : List α} {f : α -> Built (List BuiltEntry)}
    {join : List (List BuiltEntry) -> List BuiltEntry}
    (h : ∀ item ∈ items, EntriesWithin P (f item))
    (hjoin : ∀ lists, ∀ entry ∈ join lists,
      (∃ list ∈ lists, entry ∈ list) ∨ BuiltEntry.Within P entry) :
    EntriesWithin P ((Built.all (items.map f)).map join) := by
  constructor
  case whole =>
    refine Built.Within.map (Built.within_all ?_) _
    intro b hb
    obtain ⟨item, hitem, rfl⟩ := List.mem_map.1 hb
    exact (h item hitem).whole
  case each =>
    intro entries hok entry hentry
    cases hlists : Built.all (items.map f) with
    | error e =>
        rw [hlists] at hok
        cases hok
    | ok lists =>
        rw [hlists] at hok
        cases hok
        cases hjoin lists entry hentry with
        | inr hwithin => exact hwithin
        | inl hjoined =>
            obtain ⟨list, hlist, hin⟩ := hjoined
            obtain ⟨item, hitem, hbuilt⟩ := List.mem_map.1 (Built.mem_of_all_eq_ok hlists hlist)
            exact (h item hitem).each list hbuilt entry hin

theorem Within.merged {p : Part} (h : p.Within P) (hkind : P (.flaw .wrongKind)) :
    EntriesWithin P (merged p) := by
  unfold Part.merged
  cases hentries : p.entries? with
  | some b => exact h.entries b hentries
  | none =>
      cases hitems : p.items? with
      | none => exact entriesWithin_fail hkind 1
      | some items =>
          have heach : ∀ item ∈ items,
              EntriesWithin P (item.2.getD (Built.fail 1 (.flaw .wrongKind))) := by
            intro item hitem
            cases hbuilt : item.2 with
            | none => exact entriesWithin_fail hkind 1
            | some b => exact h.items items hitems item hitem b hbuilt
          refine entriesWithin_joined heach ?_
          intro lists entry hentry
          obtain ⟨list, hlist, hin⟩ := List.mem_flatten.1 hentry
          exact .inl ⟨list, List.mem_reverse.1 hlist, hin⟩

theorem entriesWithin_entriesOf {pairs : List (Part × Part)} (hkind : P (.flaw .wrongKind))
    (hkeys : ∀ pair ∈ pairs, Built.Within P pair.1.value)
    (hmarked : ∀ pair ∈ pairs, pair.1.tag = .value -> ∀ f, pair.1.text? = some (.error f) -> P f)
    (hvalues : ∀ pair ∈ pairs, pair.2.Within P) : EntriesWithin P (entriesOf pairs) := by
  rw [entriesOf, List.partition_eq_filter_filter]
  refine entriesWithin_joined ?_ ?_
  · intro pair hpair
    exact (hvalues pair (List.mem_filter.1 hpair).1).merged hkind
  · intro lists entry hentry
    cases List.mem_append.1 hentry with
    | inl htaken => exact .inl (List.mem_flatten.1 htaken)
    | inr hown =>
        obtain ⟨pair, hfiltered, rfl⟩ := List.mem_map.1 hown
        have hpair := (List.mem_filter.1 hfiltered).1
        refine .inr ⟨?_, (hvalues pair hpair).value.deeper⟩
        dsimp only
        split
        · rename_i text htag htext
          cases text with
          | ok text => exact Built.within_ok _
          | error f => exact Built.within_fail (hmarked pair hpair htag f htext) 1
        · exact (hkeys pair hpair).deeper

theorem within_unknown : Part.unknown.Within P where
  value := Built.within_ok Value.null
  entries := by
    rintro b ⟨⟩
    exact ⟨Built.within_ok [], by rintro _ ⟨⟩ entry hentry; cases hentry⟩
  pairs := by
    rintro pairs ⟨⟩ entry hentry
    cases List.mem_singleton.1 hentry
    exact ⟨Built.within_ok _, Built.within_ok _⟩
  items := by
    rintro items ⟨⟩ item hitem
    cases hitem

theorem within_ofScalar {tag : Tag} {text : String} {sound : Bool}
    (h : ∀ f, Content.scalar tag text sound = .error f -> P f) :
    (Part.ofScalar tag text sound).Within P where
  value := by
    simp only [Part.ofScalar]
    cases hvalue : Content.scalar tag text sound with
    | ok v => exact Built.within_ok v
    | error f => exact Built.within_fail (h f hvalue) 0
  entries := fun _ h => nomatch h
  pairs := fun _ h => nomatch h
  items := fun _ h => nomatch h

theorem within_ofItems {tag : Tag} {parts : List Part} (hparts : ∀ p ∈ parts, p.Within P)
    (hkind : P (.flaw .wrongKind)) (hunknown : P (.flaw .unknownTag)) :
    (Part.ofItems tag parts).Within P where
  value := by
    have hscalar : Built.Within P (Part.scalarValue tag none) := Built.within_fail hkind 0
    have hvalues : ∀ b ∈ parts.map fun p => p.value.deeper, Built.Within P b := by
      intro b hb
      obtain ⟨p, hp, rfl⟩ := List.mem_map.1 hb
      exact (hparts p hp).value.deeper
    have hsingles : ∀ b ∈ parts.map fun p => Part.single p.pairs?, Built.Within P b := by
      intro b hb
      obtain ⟨p, hp, rfl⟩ := List.mem_map.1 hb
      exact within_single (hparts p hp).pairs hkind
    cases tag with
    | seq => exact (Built.within_all hvalues).map Value.list
    | orderedMap => exact (Built.within_all hsingles).map Value.list
    | pairs => exact (Built.within_all hsingles).map Value.list
    | map => exact Built.within_fail hkind 1
    | set => exact Built.within_fail hkind 1
    | merge => exact Built.within_fail hunknown 0
    | value => exact Built.within_fail hunknown 0
    | other name => exact Built.within_fail hunknown 0
    | _ => exact hscalar
  entries := fun _ h => nomatch h
  pairs := fun _ h => nomatch h
  items := by
    rintro built ⟨⟩ item hitem b hb
    obtain ⟨p, hp, rfl⟩ := List.mem_map.1 hitem
    exact (hparts p hp).entries b hb

/-- A mapping that has the tag of its kind is no scalar. -/
theorem within_ofPairs {tag : Tag} {parts : List (Part × Part)}
    (hentries : EntriesWithin P (entriesOf parts))
    (hparts : ∀ part ∈ parts, Built.Within P part.1.value ∧ Built.Within P part.2.value)
    (hscalar : tag ≠ .map -> Built.Within P (scalarValue tag (Part.ofPairs tag parts).text?))
    (hkind : P (.flaw .wrongKind)) (hunknown : P (.flaw .unknownTag))
    (hkey : P (.flaw .unhashableKey)) : (Part.ofPairs tag parts).Within P where
  value := by
    have hdict : Built.Within P ((entriesOf parts).bind dict) :=
      hentries.whole.bind fun entries hok => within_dict (hentries.each entries hok) hkey
    cases tag with
    | map => exact hdict.map Value.dict
    | set => exact hdict.map _
    | seq => exact Built.within_fail hkind 1
    | orderedMap => exact Built.within_fail hkind 1
    | pairs => exact Built.within_fail hkind 1
    | merge => exact Built.within_fail hunknown 0
    | value => exact Built.within_fail hunknown 0
    | other name => exact Built.within_fail hunknown 0
    | _ => exact hscalar nofun
  entries := by
    rintro b ⟨⟩
    exact hentries
  pairs := by
    rintro built ⟨⟩ entry hentry
    obtain ⟨part, hpart, rfl⟩ := List.mem_map.1 hentry
    exact ⟨(hparts part hpart).1.deeper, (hparts part hpart).2.deeper⟩
  items := fun _ hitems => nomatch hitems

end

end Part

/-! ## Names -/

/-- What is so of all parts that names are known to be. -/
def Names.All (Q : String -> Part -> Prop) (names : Names) : Prop :=
  ∀ name p, names.lookup name = some p -> Q name p

section

variable {Q : String -> Part -> Prop} {names : Names}

theorem Names.All.cons (h : names.All Q) {name : String} {p : Part} (hp : Q name p) :
    Names.All Q ((name, p) :: names) := by
  intro name' p' hlookup
  rw [List.lookup_cons] at hlookup
  cases hname : name' == name with
  | true =>
      rw [hname] at hlookup
      cases hlookup
      rwa [beq_iff_eq.1 hname]
  | false =>
      rw [hname] at hlookup
      exact h name' p' hlookup

theorem Names.All.foldl {named : List (String × Node)} (h : names.All Q)
    (hstep : ∀ names : Names, names.All Q -> ∀ entry ∈ named, Q entry.1 (entry.2.part names)) :
    Names.All Q
      (named.foldl (fun names entry => (entry.1, entry.2.part names) :: names) names) := by
  induction named generalizing names with
  | nil => exact h
  | cons entry rest ih =>
      refine ih (h.cons (hstep names h entry List.mem_cons_self)) ?_
      exact fun names hnames entry mem => hstep names hnames entry (List.mem_cons_of_mem _ mem)

/--
What is so of the named nodes on the ground of what is known of the names, goes on being so when
they are worked out again.
-/
theorem Graph.all_names (g : Graph)
    (hstep : ∀ names : Names, names.All Q -> ∀ entry ∈ g.named, Q entry.1 (entry.2.part names)) :
    g.names.All Q := by
  have hrounds (rounds : List Nat) {names : Names} (h : names.All Q) :
      Names.All Q (rounds.foldl (fun names _ => g.round names) names) := by
    induction rounds generalizing names with
    | nil => exact h
    | cons _ rest ih => exact ih (h.foldl hstep)
  apply hrounds
  intro name p hlookup
  cases hlookup

end

namespace ContentFault

/-- A fault is a flaw that a text may have as a text. -/
def IsOfText (f : ContentFault) : Prop :=
  ∃ flaw : Flaw, f = .flaw flaw ∧ flaw.isOfText = true

end ContentFault

namespace Graph

/-! ## Nodes at fault -/

/-- The nodes of a document, wherever they are in it. -/
inductive Holds (g : Graph) : Node -> Prop where
  | root : Holds g g.root
  | named {name : String} {n : Node} (mem : (name, n) ∈ g.named) : Holds g n
  | item {tag : Tag} {items : List Node} {n : Node} (held : Holds g (.sequence tag items))
      (mem : n ∈ items) : Holds g n
  | key {tag : Tag} {pairs : List (Node × Node)} {k v : Node} (held : Holds g (.mapping tag pairs))
      (mem : (k, v) ∈ pairs) : Holds g k
  | value {tag : Tag} {pairs : List (Node × Node)} {k v : Node}
      (held : Holds g (.mapping tag pairs)) (mem : (k, v) ∈ pairs) : Holds g v

/-- A node has a tag; a reference has that of a node that it may name. -/
inductive Tagged (g : Graph) (tag : Tag) : Node -> Prop where
  | scalar {text : String} {sound : Bool} : Tagged g tag (.scalar tag text sound)
  | sequence {items : List Node} : Tagged g tag (.sequence tag items)
  | mapping {pairs : List (Node × Node)} : Tagged g tag (.mapping tag pairs)
  | reference {name : String} {n : Node} (mem : (name, n) ∈ g.named) (tagged : Tagged g tag n) :
      Tagged g tag (.reference name)

/--
A node stands for a scalar: itself, what it names, or the value of a mapping that is marked as the
one that the mapping stands for.
-/
inductive StandsFor (g : Graph) (text : String) (sound : Bool) : Node -> Prop where
  | scalar {tag : Tag} : StandsFor g text sound (.scalar tag text sound)
  | reference {name : String} {n : Node} (mem : (name, n) ∈ g.named)
      (stands : StandsFor g text sound n) : StandsFor g text sound (.reference name)
  | mapping {tag : Tag} {pairs : List (Node × Node)} {k v : Node} (mem : (k, v) ∈ pairs)
      (mark : Tagged g .value k) (stands : StandsFor g text sound v) :
      StandsFor g text sound (.mapping tag pairs)

/-- A node has no value under its tag. -/
inductive Unfit (g : Graph) : Node -> ContentFault -> Prop where
  | scalar {tag : Tag} {text : String} {sound : Bool} {f : ContentFault}
      (fails : Content.scalar tag text sound = .error f) : Unfit g (.scalar tag text sound) f
  | mapping {tag : Tag} {pairs : List (Node × Node)} {text : String} {sound : Bool}
      {f : ContentFault} (stands : g.StandsFor text sound (.mapping tag pairs))
      (fails : Content.scalar tag text sound = .error f) : Unfit g (.mapping tag pairs) f
  /-- A moment is read off the mapping itself. -/
  | moment {pairs : List (Node × Node)} {text : String} {sound : Bool}
      (stands : g.StandsFor text sound (.mapping .timestamp pairs)) :
      Unfit g (.mapping .timestamp pairs) .momentKind
  /-- What a mapping stands for is told by a name, so it may be the mapping itself. -/
  | endless {tag : Tag} {pairs : List (Node × Node)} {k : Node} {name : String}
      (mem : (k, .reference name) ∈ pairs) (mark : g.Tagged .value k) :
      Unfit g (.mapping tag pairs) .endless

/-- A fault is a flaw of the text, or that of a node of the document. -/
def Blamed (g : Graph) (f : ContentFault) : Prop :=
  f.IsOfText ∨ ∃ n, g.Holds n ∧ g.Unfit n f

/-- A part says of a node what can be said of it, with faults that nodes are to blame for. -/
structure Fits (g : Graph) (n : Node) (p : Part) : Prop where
  within : p.Within g.Blamed
  tagged : p.tag ≠ .null -> g.Tagged p.tag n
  stands : ∀ text sound, p.text? = some (.ok (text, sound)) -> g.StandsFor text sound n
  untold : ∀ f, p.text? = some (.error f) ->
    g.Blamed f ∨ f = .endless ∧ p.tag = .null ∧ ∃ name, n = .reference name

section

variable {g : Graph}

theorem blamed_wrongKind : g.Blamed (.flaw .wrongKind) := .inl ⟨_, rfl, rfl⟩

theorem blamed_unhashableKey : g.Blamed (.flaw .unhashableKey) := .inl ⟨_, rfl, rfl⟩

theorem blamed_unknownTag : g.Blamed (.flaw .unknownTag) := .inl ⟨_, rfl, rfl⟩

/-! ## The parts of nodes -/

theorem fits_unknown (name : String) : g.Fits (.reference name) Part.unknown where
  within := Part.within_unknown
  tagged := fun h => absurd rfl h
  stands := fun _ _ h => nomatch h
  untold := by
    rintro f ⟨⟩
    exact .inr ⟨rfl, rfl, name, rfl⟩

theorem fits_scalar {tag : Tag} {text : String} {sound : Bool}
    (held : g.Holds (.scalar tag text sound)) :
    g.Fits (.scalar tag text sound) (Part.ofScalar tag text sound) where
  within := Part.within_ofScalar fun _ hfails => .inr ⟨_, held, .scalar hfails⟩
  tagged := fun _ => .scalar
  stands := by
    rintro _ _ ⟨⟩
    exact .scalar
  untold := fun _ h => nomatch h

/-- What a name is known to be is known of the reference to it. -/
theorem Fits.reference {name : String} {n : Node} {p : Part} (h : g.Fits n p)
    (mem : (name, n) ∈ g.named) : g.Fits (.reference name) p where
  within := h.within
  tagged := fun htag => .reference mem (h.tagged htag)
  stands := fun text sound htext => .reference mem (h.stands text sound htext)
  untold := by
    intro f htext
    cases h.untold f htext with
    | inl hblamed => exact .inl hblamed
    | inr huntold => exact .inr ⟨huntold.1, huntold.2.1, name, rfl⟩

theorem fits_sequence {tag : Tag} {items : List Node} {parts : List Part}
    (hparts : ∀ p ∈ parts, p.Within g.Blamed) :
    g.Fits (.sequence tag items) (Part.ofItems tag parts) where
  within := Part.within_ofItems hparts blamed_wrongKind blamed_unknownTag
  tagged := fun _ => .sequence
  stands := fun _ _ h => nomatch h
  untold := fun _ h => nomatch h

/-- The parts of a mapping say of its keys and values what can be said of them. -/
def FitsPairs (g : Graph) (pairs : List (Node × Node)) (parts : List (Part × Part)) : Prop :=
  ∀ part ∈ parts, ∃ pair ∈ pairs, g.Fits pair.1 part.1 ∧ g.Fits pair.2 part.2

section

variable {tag : Tag} {pairs : List (Node × Node)} {parts : List (Part × Part)}

/-- The text of a mapping is that of the value of a marked key. -/
theorem FitsPairs.marked (h : g.FitsPairs pairs parts) {text : Except ContentFault (String × Bool)}
    (htext : (Part.ofPairs tag parts).text? = some text) :
    ∃ k v p, (k, v) ∈ pairs ∧ g.Tagged .value k ∧ g.Fits v p ∧ p.text? = some text := by
  obtain ⟨part, hfind, hvalue⟩ := Option.bind_eq_some_iff.1 htext
  obtain ⟨⟨k, v⟩, hpair, hkey, hfits⟩ := h part (List.mem_of_find?_eq_some hfind)
  have htag : part.1.tag = .value := by simpa using List.find?_some hfind
  have hmark : g.Tagged .value k := htag ▸ hkey.tagged (by rw [htag]; nofun)
  exact ⟨k, v, part.2, hpair, hmark, hfits, hvalue⟩

theorem FitsPairs.stands (h : g.FitsPairs pairs parts) {text : String} {sound : Bool}
    (htext : (Part.ofPairs tag parts).text? = some (.ok (text, sound))) :
    g.StandsFor text sound (.mapping tag pairs) := by
  obtain ⟨k, v, p, hpair, hmark, hfits, hvalue⟩ := h.marked htext
  exact .mapping hpair hmark (hfits.stands text sound hvalue)

theorem FitsPairs.untold (h : g.FitsPairs pairs parts) (held : g.Holds (.mapping tag pairs))
    {f : ContentFault} (htext : (Part.ofPairs tag parts).text? = some (.error f)) :
    g.Blamed f := by
  obtain ⟨k, v, p, hpair, hmark, hfits, hvalue⟩ := h.marked htext
  rcases hfits.untold f hvalue with hblamed | ⟨rfl, -, name, rfl⟩
  · exact hblamed
  · exact .inr ⟨_, held, .endless hpair hmark⟩

theorem FitsPairs.entries (h : g.FitsPairs pairs parts) :
    EntriesWithin g.Blamed (Part.entriesOf parts) := by
  apply Part.entriesWithin_entriesOf blamed_wrongKind
  · intro part hpart
    obtain ⟨pair, -, hkey, -⟩ := h part hpart
    exact hkey.within.value
  · intro part hpart htag f htext
    obtain ⟨pair, -, hkey, -⟩ := h part hpart
    rcases hkey.untold f htext with hblamed | ⟨-, hnull, -⟩
    · exact hblamed
    · rw [htag] at hnull
      cases hnull
  · intro part hpart
    obtain ⟨pair, -, -, hvalue⟩ := h part hpart
    exact hvalue.within

/-- A mapping that is read as a scalar has the value of the one it stands for. -/
theorem FitsPairs.scalarValue (h : g.FitsPairs pairs parts) (held : g.Holds (.mapping tag pairs)) :
    Built.Within g.Blamed (Part.scalarValue tag (Part.ofPairs tag parts).text?) := by
  apply Part.within_scalarValue blamed_wrongKind
  · intro f htext
    exact h.untold held htext
  · rintro text sound htext rfl
    exact .inr ⟨_, held, .moment (h.stands htext)⟩
  · intro text sound f htext hfails
    exact .inr ⟨_, held, .mapping (h.stands htext) hfails⟩

theorem FitsPairs.mapping (h : g.FitsPairs pairs parts) (held : g.Holds (.mapping tag pairs)) :
    g.Fits (.mapping tag pairs) (Part.ofPairs tag parts) where
  within := by
    refine Part.within_ofPairs h.entries ?_ (fun _ => h.scalarValue held) blamed_wrongKind
      blamed_unknownTag blamed_unhashableKey
    intro part hpart
    obtain ⟨pair, -, hkey, hvalue⟩ := h part hpart
    exact ⟨hkey.within.value, hvalue.within.value⟩
  tagged := fun _ => .mapping
  stands := fun text sound htext => h.stands htext
  untold := fun f htext => .inl (h.untold held htext)

end

/-! ## Documents -/

/-- Of every name only that is known what can be said of a reference to it. -/
def FitsNames (g : Graph) (names : Names) : Prop :=
  ∀ name p, names.lookup name = some p -> g.Fits (.reference name) p

mutual

theorem fits_part {names : Names} (hnames : g.FitsNames names) :
    (n : Node) -> g.Holds n -> g.Fits n (n.part names)
  | .scalar tag text sound, held => fits_scalar held
  | .sequence tag items, held =>
      fits_sequence (fits_parts hnames items fun n mem => .item held mem)
  | .mapping tag pairs, held =>
      FitsPairs.mapping (fits_pairParts hnames pairs fun k v mem =>
        ⟨.key held mem, .value held mem⟩) held
  | .reference name, _ => by
      rw [Node.part]
      cases hlookup : names.lookup name with
      | none => exact fits_unknown name
      | some p => exact hnames name p hlookup

theorem fits_parts {names : Names} (hnames : g.FitsNames names) :
    (items : List Node) -> (∀ n ∈ items, g.Holds n) ->
      ∀ p ∈ Node.parts names items, p.Within g.Blamed
  | [], _ => by
      intro p hp
      cases hp
  | n :: rest, held => by
      intro p hp
      rw [Node.parts] at hp
      cases List.mem_cons.1 hp with
      | inl heq =>
          rw [heq]
          exact (fits_part hnames n (held n List.mem_cons_self)).within
      | inr hin =>
          exact fits_parts hnames rest (fun m mem => held m (List.mem_cons_of_mem _ mem)) p hin

theorem fits_pairParts {names : Names} (hnames : g.FitsNames names) :
    (pairs : List (Node × Node)) -> (∀ k v, (k, v) ∈ pairs -> g.Holds k ∧ g.Holds v) ->
      g.FitsPairs pairs (Node.pairParts names pairs)
  | [], _ => by
      intro part hpart
      cases hpart
  | (k, v) :: rest, held => by
      intro part hpart
      rw [Node.pairParts] at hpart
      cases List.mem_cons.1 hpart with
      | inl heq =>
          obtain ⟨hk, hv⟩ := held k v List.mem_cons_self
          rw [heq]
          exact ⟨(k, v), List.mem_cons_self, fits_part hnames k hk, fits_part hnames v hv⟩
      | inr hin =>
          have hrest := fits_pairParts hnames rest fun k v mem =>
            held k v (List.mem_cons_of_mem _ mem)
          obtain ⟨pair, hpair, hfits⟩ := hrest part hin
          exact ⟨pair, List.mem_cons_of_mem _ hpair, hfits⟩

end

theorem fits_names (g : Graph) : g.FitsNames g.names := by
  refine g.all_names fun names hnames entry mem => ?_
  have hfits : g.FitsNames names := hnames
  exact (fits_part hfits entry.2 (.named mem)).reference mem

/-- A document without a value is flawed, or one of its nodes is at fault. -/
theorem blamed_of_value {f : ContentFault} (h : g.value = .error f) : g.Blamed f := by
  have hroot := (fits_part g.fits_names g.root .root).within.value
  unfold value at h
  cases hvalue : (g.root.part g.names).value with
  | ok v =>
      rw [hvalue] at h
      cases h
  | error e =>
      rw [hvalue] at h
      cases h
      exact hroot e.1 e.2 hvalue

end

end Graph

end Clearance.Yaml
