import Clearance.Proofs.Value.Plain
import Clearance.Schema.Record
import Mathlib.Data.List.Nodup

/-!
# Fields of a record read back

A record that is given field by field, each field under its name, is read field by field.  Fields
that are null may have been left out.
-/

namespace Clearance.Schema

open Value (named)

/-- The fields of a record, each under its key. -/
abbrev Fields := List (Key × Value)

/-- Whether a field is there: a null may have been left out. -/
def isKept (keepNull : Bool) : Value -> Bool
  | .null => keepNull
  | _ => true

namespace Fields

def keys (fields : Fields) : List Key :=
  fields.map Prod.fst

/-- The fields that are there, under their names. -/
def table (keepNull : Bool) (fields : Fields) : Table Value :=
  (fields.filter fun field => isKept keepNull field.2).map fun field => (field.1.name, field.2)

/-- The record as the entries of a dictionary. -/
def entries (keepNull : Bool) (fields : Fields) : List (Value × Value) :=
  named (fields.table keepNull)

/-- The record as a value. -/
def value (keepNull : Bool) (fields : Fields) : Value :=
  .dict (fields.entries keepNull)

end Fields

/-- Keys of different names, none of which is the other key of a field. -/
def Distinct (keys : List Key) : Prop :=
  (keys.map Key.name).Nodup ∧ ∀ key ∈ keys, ∀ other ∈ keys, key.alias? ≠ some other.name

instance (keys : List Key) : Decidable (Distinct keys) :=
  inferInstanceAs (Decidable (_ ∧ _))

theorem isKept_of_ne_null {v : Value} (h : v ≠ .null) (keepNull : Bool) :
    isKept keepNull v = true := by
  cases v
  case null => exact absurd rfl h
  all_goals rfl

namespace Fields

variable {keepNull : Bool} {fields : Fields}

theorem names_table_sublist (keepNull : Bool) (fields : Fields) :
    (fields.table keepNull).names.Sublist (fields.keys.map Key.name) := by
  rw [Table.names, table, keys, List.map_map, List.map_map]
  exact List.filter_sublist.map _

theorem nodup_names_table (h : Distinct fields.keys) : (fields.table keepNull).names.Nodup :=
  h.1.sublist (names_table_sublist keepNull fields)

theorem get?_table (h : (fields.keys.map Key.name).Nodup) {key : Key} {v : Value}
    (hfield : (key, v) ∈ fields) :
    (fields.table keepNull).get? key.name = if isKept keepNull v then some v else none := by
  have hsame : ∀ other ∈ fields, other.1.name = key.name -> other = (key, v) := by
    intro other hother hname
    rw [keys, List.map_map] at h
    exact List.inj_on_of_nodup_map h hother hfield hname
  split
  · rename_i hkept
    refine (Table.get?_eq_some_iff (h.sublist (names_table_sublist keepNull fields))).2 ?_
    exact List.mem_map.2 ⟨(key, v), List.mem_filter.2 ⟨hfield, hkept⟩, rfl⟩
  · rename_i hkept
    refine Table.get?_eq_none_of_not_mem fun hmem => hkept ?_
    obtain ⟨entry, hentry, hname⟩ := List.mem_map.1 hmem
    obtain ⟨other, hother, rfl⟩ := List.mem_map.1 hentry
    obtain ⟨hother, hkept⟩ := List.mem_filter.1 hother
    rwa [hsame other hother hname] at hkept

/-- A field is found under its name, if it is there. -/
theorem find?_entries (h : Distinct fields.keys) {key : Key} {v : Value}
    (hfield : (key, v) ∈ fields) :
    key.find? (fields.entries keepNull) =
      if isKept keepNull v then some (key.name, v) else none := by
  have hkey : key ∈ fields.keys := List.mem_map.2 ⟨_, hfield, rfl⟩
  have halias : ∀ other, key.alias? = some other ->
      Value.lookup other (fields.entries keepNull) = none := by
    intro other hsome
    rw [entries, Value.lookup_named]
    refine Table.get?_eq_none_of_not_mem fun hmem => ?_
    obtain ⟨field, hmem, hname⟩ :=
      List.mem_map.1 ((names_table_sublist keepNull fields).subset hmem)
    exact h.2 key hkey field hmem (by rw [hsome, hname])
  have hnone : ((key.alias?).bind fun s =>
      (Value.lookup s (fields.entries keepNull)).map fun v => (s, v)) = none := by
    cases hsome : key.alias? with
    | none => rfl
    | some other => rw [Option.bind_some, halias other hsome, Option.map_none]
  simp only [Key.find?, hnone]
  simp only [entries, Value.lookup_named, get?_table h.1 hfield]
  split <;> rfl

variable {α : Type} {key : Key} {read : Value -> Checked α} {v : Value} {x default : α}

theorem required_eq (h : Distinct fields.keys) (hfield : (key, v) ∈ fields) (hv : v ≠ .null)
    (hread : read v = .ok x) : required key read (fields.entries keepNull) = .ok x := by
  rw [required, find?_entries h hfield, if_pos (isKept_of_ne_null hv keepNull)]
  simp only [hread]
  rfl

theorem defaulted_eq (h : Distinct fields.keys) (hfield : (key, v) ∈ fields)
    (hnull : v = .null -> x = default) (hread : read v = .ok x) :
    defaulted key read default (fields.entries keepNull) = .ok x := by
  rw [defaulted, find?_entries h hfield]
  by_cases hkept : isKept keepNull v = true
  · rw [if_pos hkept]
    simp only [hread]
    rfl
  · have hv : v = .null := by
      by_contra hne
      exact hkept (isKept_of_ne_null hne keepNull)
    rw [if_neg hkept, hnull hv]

/-- All that is there is a field. -/
theorem strays_eq_nil (h : Distinct fields.keys) :
    strays fields.keys (fields.entries keepNull) = [] := by
  refine List.filterMap_eq_nil_iff.2 fun entry hentry => ?_
  obtain ⟨named, hnamed, rfl⟩ := List.mem_map.1 hentry
  obtain ⟨⟨key, v⟩, hfield, rfl⟩ := List.mem_map.1 hnamed
  obtain ⟨hfield, hkept⟩ := List.mem_filter.1 hfield
  have hfind := @find?_entries keepNull fields h key v hfield
  rw [if_pos hkept] at hfind
  refine if_pos (List.contains_iff_mem.2 (List.mem_filterMap.2 ⟨key, ?_, ?_⟩))
  · exact List.mem_map.2 ⟨_, hfield, rfl⟩
  · rw [hfind]
    rfl

end Fields

/-! ## Readers of single values -/

@[simp] theorem Checked.app_ok {α β : Type} (f : α -> β) (x : α) :
    Checked.app (.ok f) (.ok x) = .ok (f x) := rfl

@[simp] theorem Checked.refusing_nil {α : Type} (x : α) :
    Checked.refusing (.ok x) [] = .ok x := rfl

theorem items_eq {α : Type} {read : Value -> Checked α} {value : α -> Value} {xs : List α}
    (h : ∀ x ∈ xs, read (value x) = .ok x) (n : Nat) :
    Checked.items read n (xs.map value) = .ok xs := by
  induction xs generalizing n with
  | nil => rfl
  | cons x rest ih =>
      obtain ⟨hx, hrest⟩ := List.forall_mem_cons.1 h
      rw [List.map_cons, Checked.items, hx, ih hrest]
      rfl

/-- A list of what can be read is read. -/
theorem listOf_eq {α : Type} {read : Value -> Checked α} {value : α -> Value} {xs : List α}
    (h : ∀ x ∈ xs, read (value x) = .ok x) : listOf read (.list (xs.map value)) = .ok xs :=
  items_eq h 0

theorem textEntries_named (fields : Table Value) : textEntries (named fields) = .ok fields := by
  induction fields with
  | nil => rfl
  | cons field rest ih =>
      obtain ⟨name, v⟩ := field
      rw [Value.named_cons, textEntries, ih]
      rfl

theorem nonemptyText_eq {s : String} (h : s ≠ "") : nonemptyText (.str s) = .ok s := by
  have hempty : ¬s.isEmpty = true := by simpa using h
  simp only [nonemptyText, text, bind, Except.bind, if_neg hempty]
  rfl

theorem oneOf_eq {α : Type} {ofName? : String -> Option α} {name : α -> String} {a : α}
    (h : ofName? (name a) = some a) (names : List String) :
    oneOf names ofName? (.str (name a)) = .ok a := by
  have htext : textual? (.str (name a)) = some (name a) := rfl
  rw [oneOf, htext, Option.bind_some, h]

end Clearance.Schema
