import Clearance.Proofs.Yaml.Scalars
import Clearance.Proofs.Yaml.Untagged

/-!
# Values of documents without tags

A document without tags has a value, or it is flawed as a part of a text, or one of its plain
scalars is a number without digits or a number or moment out of range.
-/

namespace Clearance.Yaml

namespace Graph

/-- A fault is a flaw of the text, or that of a plain scalar whose form promises another value. -/
def Slips (g : Graph) (f : ContentFault) : Prop :=
  f.IsOfText ∨
    ∃ text, g.Holds (.scalar (Tag.ofPlain text) text true) ∧ PlainFault (Tag.ofPlain text) f

section

variable {g : Graph}

theorem slips_wrongKind : g.Slips (.flaw .wrongKind) := .inl ⟨_, rfl, rfl⟩

theorem slips_unhashableKey : g.Slips (.flaw .unhashableKey) := .inl ⟨_, rfl, rfl⟩

theorem slips_unknownTag : g.Slips (.flaw .unknownTag) := .inl ⟨_, rfl, rfl⟩

/-! ## The parts of nodes -/

/-- What a part without tags hands on, and that the mark of a value is itself a scalar. -/
structure Ordinary (g : Graph) (p : Part) : Prop where
  within : p.Within g.Slips
  marked : p.tag = .value -> ∀ f, p.text? ≠ some (.error f)

theorem ordinary_unknown : g.Ordinary Part.unknown where
  within := Part.within_unknown
  marked := fun h => nomatch h

theorem ordinary_plain {text : String} (ends : text.toList.getLast? ≠ some '\n')
    (held : g.Holds (.scalar (Tag.ofPlain text) text true)) :
    g.Ordinary (Part.ofScalar (Tag.ofPlain text) text true) where
  within := Part.within_ofScalar fun f hfails =>
    (Content.within_plain ends f hfails).imp_right fun hplain => ⟨text, held, hplain⟩
  marked := fun _ _ h => nomatch h

theorem ordinary_quoted (text : String) (sound : Bool) :
    g.Ordinary (Part.ofScalar .str text sound) where
  within := Part.within_ofScalar fun _ hfails => nomatch hfails
  marked := fun h => nomatch h

theorem ordinary_sequence {parts : List Part} (h : ∀ p ∈ parts, g.Ordinary p) :
    g.Ordinary (Part.ofItems .seq parts) where
  within := Part.within_ofItems (fun p hp => (h p hp).within) slips_wrongKind slips_unknownTag
  marked := fun h => nomatch h

theorem ordinary_mapping {parts : List (Part × Part)}
    (h : ∀ part ∈ parts, g.Ordinary part.1 ∧ g.Ordinary part.2) :
    g.Ordinary (Part.ofPairs .map parts) where
  within := by
    have hentries : EntriesWithin g.Slips (Part.entriesOf parts) := by
      apply Part.entriesWithin_entriesOf slips_wrongKind
      · exact fun part hpart => (h part hpart).1.within.value
      · exact fun part hpart htag f htext => absurd htext ((h part hpart).1.marked htag f)
      · exact fun part hpart => (h part hpart).2.within
    refine Part.within_ofPairs hentries ?_ (fun htag => absurd rfl htag) slips_wrongKind
      slips_unknownTag slips_unhashableKey
    exact fun part hpart => ⟨(h part hpart).1.within.value, (h part hpart).2.within.value⟩
  marked := fun h => nomatch h

end

end Graph

namespace Node

theorem parts_eq_map (names : Names) (items : List Node) :
    Node.parts names items = items.map (Node.part names) := by
  induction items with
  | nil => rfl
  | cons n rest ih => rw [Node.parts, ih, List.map_cons]

theorem pairParts_eq_map (names : Names) (pairs : List (Node × Node)) :
    Node.pairParts names pairs =
      pairs.map fun pair => (pair.1.part names, pair.2.part names) := by
  induction pairs with
  | nil => rfl
  | cons pair rest ih => rw [Node.pairParts, ih, List.map_cons]

/-- By induction on what is in a node. -/
theorem Untagged.ordinary {g : Graph} {names : Names} (hnames : names.All fun _ p => g.Ordinary p)
    {n : Node} (h : n.Untagged) (held : g.Holds n) : g.Ordinary (n.part names) := by
  induction h with
  | plain ends => exact Graph.ordinary_plain ends held
  | quoted => exact Graph.ordinary_quoted _ _
  | sequence _ ih =>
      rw [Node.part, parts_eq_map]
      refine Graph.ordinary_sequence (List.forall_mem_map.2 fun n hn => ?_)
      exact ih n hn (.item held hn)
  | mapping _ _ hkeys hvalues =>
      rw [Node.part, pairParts_eq_map]
      refine Graph.ordinary_mapping (List.forall_mem_map.2 fun pair hpair => ?_)
      exact ⟨hkeys pair hpair (.key held hpair), hvalues pair hpair (.value held hpair)⟩
  | reference =>
      rw [Node.part]
      cases hlookup : names.lookup _ with
      | none => exact Graph.ordinary_unknown
      | some p => exact hnames _ p hlookup

end Node

/-- A document of nodes without tags has a value, or a plain scalar in it is to blame. -/
theorem Graph.slips_of_value {g : Graph} (hroot : g.root.Untagged)
    (hnamed : ∀ entry ∈ g.named, entry.2.Untagged) {f : ContentFault} (h : g.value = .error f) :
    g.Slips f := by
  have hnames : g.names.All fun _ p => g.Ordinary p :=
    g.all_names fun _ hknown entry mem => (hnamed entry mem).ordinary hknown (.named mem)
  unfold Graph.value at h
  cases hvalue : (g.root.part g.names).value with
  | ok v =>
      rw [hvalue] at h
      cases h
  | error e =>
      rw [hvalue] at h
      cases h
      exact (hroot.ordinary hnames .root).within.value e.1 e.2 hvalue

/--
A text in which no tag is written has a value, or it is flawed as a text, or a plain scalar in it is
a number without digits or a number or moment out of range.
-/
theorem slips_of_load {text : String} (htags : ∀ t ∈ (Token.read text).1, t.isTag = false)
    {f : ContentFault} (h : load text = .error f) :
    (∃ flaw, Graph.read text = .error flaw ∧ f = .flaw flaw) ∨
      ∃ g, Graph.read text = .ok (some g) ∧ g.Slips f := by
  unfold load at h
  cases hread : Graph.read text with
  | error flaw =>
      rw [hread] at h
      cases h
      exact .inl ⟨flaw, rfl, rfl⟩
  | ok g? =>
      rw [hread] at h
      cases g? with
      | none => cases h
      | some g =>
          obtain ⟨hroot, hnamed⟩ := Graph.untagged_read htags hread
          exact .inr ⟨g, rfl, Graph.slips_of_value hroot hnamed h⟩

example : ∀ t ∈ (Token.read "limit: 0x_").1, t.isTag = false := by decide +kernel

end Clearance.Yaml
