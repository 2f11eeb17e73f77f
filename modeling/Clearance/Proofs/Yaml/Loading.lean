import Clearance.Proofs.Value.Plain
import Clearance.Proofs.Yaml.Parsing
import Clearance.Proofs.Yaml.Rendering
import Clearance.Yaml.Node.Value

/-!
# Loading a rendered record

The text of a record is loaded as the value of the record: lists as lists, records as dictionaries,
and each text as itself, whatever it looks like.
-/

namespace Clearance.Yaml

open Value (named)

namespace Built

variable {α β : Type}

theorem all_map_ok (f : α -> β) (xs : List α) :
    all (xs.map fun x => .ok (f x)) = .ok (xs.map f) := by
  induction xs with
  | nil => rfl
  | cons x rest ih =>
      rw [List.map_cons, all, ih]
      rfl

end Built

namespace Tree

variable {names : Names} {n : Nat}

/-- The fields of a record as a table of values. -/
def valueTable (fields : List (String × Tree)) : Table Value :=
  fields.map fun f => (f.1, f.2.toValue)

theorem fieldValues_eq_named (fields : List (String × Tree)) :
    fieldValues fields = named (valueTable fields) := by
  induction fields with
  | nil => rfl
  | cons f rest ih =>
      obtain ⟨name, t⟩ := f
      rw [fieldValues, ih]
      rfl

theorem names_valueTable (fields : List (String × Tree)) :
    (valueTable fields).names = fields.map Prod.fst := by
  rw [Table.names, valueTable, List.map_map]
  rfl

/-- The values of items make the value of the list. -/
theorem all_parts {items : List Tree}
    (h : ∀ t ∈ items, (t.toNode.part names).value = .ok t.toValue) :
    Built.all ((Node.parts names (itemNodes items)).map fun p => p.value.deeper) =
      .ok (itemValues items) := by
  induction items with
  | nil => rfl
  | cons t rest ih =>
      obtain ⟨ht, hrest⟩ := List.forall_mem_cons.1 h
      rw [itemNodes, Node.parts, List.map_cons, Built.all, ht, ih hrest, itemValues]
      rfl

theorem pairParts_fieldNodes (fields : List (String × Tree)) :
    Node.pairParts names (fieldNodes fields) =
      fields.map fun f => (Part.ofScalar .str f.1 true, f.2.toNode.part names) := by
  induction fields with
  | nil => rfl
  | cons f rest ih =>
      obtain ⟨name, t⟩ := f
      rw [fieldNodes, Node.pairParts, ih]
      rfl

/-- The keys of a record are texts, so no field is taken over from elsewhere. -/
theorem entriesOf_fields {fields : List (String × Tree)}
    (h : ∀ f ∈ fields, (f.2.toNode.part names).value = .ok f.2.toValue) :
    Part.entriesOf (fields.map fun f => (Part.ofScalar .str f.1 true, f.2.toNode.part names)) =
      .ok (fields.map fun f => (.ok (.str f.1), .ok f.2.toValue)) := by
  have hown : ∀ p ∈ fields.map fun f => (Part.ofScalar .str f.1 true, f.2.toNode.part names),
      (p.1.tag == .merge) = false := by
    intro p hp
    obtain ⟨f, -, rfl⟩ := List.mem_map.1 hp
    rfl
  rw [Part.entriesOf, List.partition_eq_filter_filter, List.filter_eq_nil_iff.2,
    List.filter_eq_self.2]
  · simp only [List.map_map]
    refine congrArg Except.ok (List.map_congr_left fun f hf => ?_)
    exact congrArg (Prod.mk _) (by rw [h f hf]; rfl)
  · intro p hp
    simp [hown p hp]
  · intro p hp
    simp [hown p hp]

theorem dict_fields {fields : List (String × Tree)} (hnodup : (fields.map Prod.fst).Nodup) :
    Part.dict (fields.map fun f => (.ok (.str f.1), .ok f.2.toValue)) =
      .ok (fieldValues fields) := by
  have hall : Built.all ((fields.map fun f => ((.ok (.str f.1), .ok f.2.toValue) : BuiltEntry)).map
      fun (k, v) => Built.app ((Part.keyOf k).map Prod.mk) v) = .ok (named (valueTable fields)) := by
    rw [List.map_map, named, valueTable, List.map_map]
    exact Built.all_map_ok (fun f : String × Tree => (Value.str f.1, f.2.toValue)) fields
  have hnames : (Table.names ([] ++ valueTable fields)).Nodup := by
    rwa [List.nil_append, names_valueTable]
  rw [Part.dict, hall, fieldValues_eq_named]
  exact congrArg Except.ok (Value.foldl_insertEntry_named hnames)

theorem regular_value {t : Tree} (h : Regular n t) : (t.toNode.part names).value = .ok t.toValue := by
  induction h with
  | flag n b => cases b <;> rfl
  | text n s => rfl
  | @list n items _ _ ih =>
      rw [toNode, Node.part, toValue]
      simp only [Part.ofItems, all_parts ih]
      rfl
  | @record n fields _ hnodup _ _ ih =>
      rw [toNode, Node.part, pairParts_fieldNodes, toValue]
      simp only [Part.ofPairs, entriesOf_fields ih, Except.bind, dict_fields hnodup]
      rfl

/-- A rendered record is the document that its tree stands for. -/
theorem read_document {fields : List (String × Tree)} (h : Regular n (.record fields))
    (hroom : Fits 0 n) :
    Graph.read (render fields) =
      .ok (some { root := (Tree.record fields).toNode, named := [] }) := by
  have hparsed := document_parsed h
    (show 4 * (Tree.record fields).tokens.length + 2 ≤
      4 * (Tree.record fields).tokens.toArray.size + 8 by rw [List.size_toArray]; omega)
  unfold Graph.read
  rw [read_render h hroom]
  simp only [StateT.run, hparsed]
  rfl

/-- A rendered record is loaded as its value. -/
theorem load_render {fields : List (String × Tree)} (h : Regular n (.record fields))
    (hroom : Fits 0 n) : load (render fields) = .ok (Tree.record fields).toValue := by
  rw [load, read_document h hroom]
  simp only [Graph.value, regular_value h]
  rfl

end Tree

end Clearance.Yaml
