import Clearance.Decision
import Clearance.Table

/-!
# Plain data

Nothing, Booleans, whole and finite numbers, texts, lists of plain data, and dictionaries that give
plain data under names, each name once.  Two pieces of plain data agree when they differ at most in
the order of the entries of their dictionaries.
-/

namespace Clearance

namespace Value

/-- The entries of a dictionary under names. -/
def named (fields : Table Value) : List (Value × Value) :=
  fields.map fun (name, v) => (.str name, v)

inductive Plain : Value -> Prop where
  | null : Plain .null
  | bool (b : Bool) : Plain (.bool b)
  | int (n : Int) : Plain (.int n)
  | real {x : Binary64} (finite : x.isFinite = true) : Plain (.real x)
  | str (s : String) : Plain (.str s)
  | list {items : List Value} (plain : ∀ v ∈ items, Plain v) : Plain (.list items)
  | dict {fields : Table Value} (nodup : fields.names.Nodup) (plain : ∀ f ∈ fields, Plain f.2) :
      Plain (.dict (named fields))

mutual

/-- Whether two pieces of plain data are equal but for the order of entries. -/
def agrees : Value -> Value -> Bool
  | .null, .null => true
  | .bool a, .bool b => a == b
  | .int m, .int n => m == n
  | .real x, .real y => x == y
  | .str s, .str t => s == t
  | .list items, .list others => itemsAgree items others
  | .dict entries, .dict others => entries.length == others.length && entriesAgree entries others
  | _, _ => false

def itemsAgree : List Value -> List Value -> Bool
  | [], [] => true
  | v :: rest, w :: others => agrees v w && itemsAgree rest others
  | _, _ => false

/-- Whether each of the entries is found among others with a value that agrees. -/
def entriesAgree : List (Value × Value) -> List (Value × Value) -> Bool
  | [], _ => true
  | (.str name, v) :: rest, others =>
      (match lookup name others with
        | some w => agrees v w
        | none => false) && entriesAgree rest others
  | _ :: _, _ => false

end

/-! ## Dictionaries under names -/

@[simp] theorem named_nil : named [] = [] := rfl

@[simp] theorem named_cons (name : String) (v : Value) (rest : Table Value) :
    named ((name, v) :: rest) = (.str name, v) :: named rest := rfl

@[simp] theorem length_named (fields : Table Value) : (named fields).length = fields.length := by
  simp [named]

theorem lookup_named (name : String) (fields : Table Value) :
    lookup name (named fields) = fields.get? name := by
  induction fields with
  | nil => rfl
  | cons field rest ih =>
      obtain ⟨other, v⟩ := field
      simp only [named_cons, lookup, Table.get?, ih]

theorem sameKey_str (s t : String) : sameKey (.str s) (.str t) = (s == t) := by
  rw [sameKey]

theorem insertEntry_str (name : String) (v : Value) (fields : Table Value) :
    insertEntry (.str name) v (named fields) = named (fields.set name v) := by
  induction fields with
  | nil => rfl
  | cons field rest ih =>
      obtain ⟨other, w⟩ := field
      simp only [named_cons, insertEntry, sameKey_str, Table.set, ih, beq_iff_eq]
      split <;> rfl

theorem foldl_insertEntry_named {before fields : Table Value}
    (h : (Table.names (before ++ fields)).Nodup) :
    (named fields).foldl (fun acc (k, v) => insertEntry k v acc) (named before) =
      named (before ++ fields) := by
  induction fields generalizing before with
  | nil => rw [named_nil, List.foldl_nil, List.append_nil]
  | cons field rest ih =>
      obtain ⟨name, v⟩ := field
      have hname : name ∉ Table.names before := by
        intro hmem
        simp only [Table.names, List.map_append, List.map_cons] at h hmem
        exact (List.nodup_append.1 h).2.2 _ hmem _ (List.mem_cons_self ..) rfl
      rw [named_cons, List.foldl_cons]
      simp only [insertEntry_str, Table.set_of_notMem hname]
      rw [ih (by rwa [List.append_assoc]), List.append_assoc]
      rfl

/-- Names that are given once make a dictionary as they stand. -/
theorem dictOf_named {fields : Table Value} (h : fields.names.Nodup) :
    dictOf (named fields) = .dict (named fields) :=
  congrArg Value.dict (@foldl_insertEntry_named [] fields h)

/-- Names make a dictionary under names; of the values under one name the last one stays. -/
theorem exists_dictOf_get? (fields : Table Value) :
    ∃ others : Table Value, dictOf (named fields) = .dict (named others) ∧
      ∀ name, others.get? name = fields.reverse.lookup name := by
  suffices h : ∀ before : Table Value, ∃ others : Table Value,
      (named fields).foldl (fun acc (k, v) => insertEntry k v acc) (named before) = named others ∧
        ∀ name, others.get? name = (fields.reverse.lookup name).or (before.get? name) by
    obtain ⟨others, hothers, hget⟩ := h []
    exact ⟨others, congrArg Value.dict hothers, fun name => (hget name).trans Option.or_none⟩
  induction fields with
  | nil => exact fun before => ⟨before, rfl, fun _ => rfl⟩
  | cons field rest ih =>
      intro before
      obtain ⟨name, v⟩ := field
      obtain ⟨others, hothers, hget⟩ := ih (before.set name v)
      refine ⟨others, ?_, fun other => ?_⟩
      · rw [← hothers, ← insertEntry_str]
        rfl
      · rw [hget, Table.get?_set, List.reverse_cons, List.lookup_append, Option.or_assoc]
        by_cases hname : other = name
        · simp [hname]
        · simp [hname, List.lookup_cons, beq_false_of_ne hname]

theorem exists_dictOf_named (fields : Table Value) :
    ∃ others : Table Value, dictOf (named fields) = .dict (named others) := by
  obtain ⟨others, hothers, -⟩ := exists_dictOf_get? fields
  exact ⟨others, hothers⟩

/-- A dictionary that is made of plain data under names is plain. -/
theorem plain_dictOf {fields : Table Value} (h : ∀ f ∈ fields, Plain f.2) :
    Plain (dictOf (named fields)) := by
  suffices h : ∀ before : Table Value, before.names.Nodup -> (∀ f ∈ before, Plain f.2) ->
      ∃ others : Table Value, others.names.Nodup ∧ (∀ f ∈ others, Plain f.2) ∧
        (named fields).foldl (fun acc (k, v) => insertEntry k v acc) (named before) =
          named others by
    obtain ⟨others, hnodup, hplain, hdict⟩ := h [] List.nodup_nil (List.forall_mem_nil _)
    have heq : dictOf (named fields) = .dict (named others) := congrArg Value.dict hdict
    exact heq ▸ .dict hnodup hplain
  induction fields with
  | nil => exact fun before hnodup hplain => ⟨before, hnodup, hplain, rfl⟩
  | cons field rest ih =>
      obtain ⟨name, v⟩ := field
      obtain ⟨hv, hrest⟩ := List.forall_mem_cons.1 h
      intro before hnodup hplain
      have hset : ∀ f ∈ before.set name v, Plain f.2 := by
        intro f hf
        obtain rfl | hold := Table.eq_or_mem_of_mem_set hf
        · exact hv
        · exact hplain f hold
      obtain ⟨others, hothers, hplain', hdict⟩ :=
        ih hrest (before.set name v) (Table.nodup_names_set hnodup) hset
      refine ⟨others, hothers, hplain', ?_⟩
      rw [named_cons, List.foldl_cons]
      simpa only [insertEntry_str] using hdict

/-- Dictionaries agree when each value of one agrees with that of the other under its name. -/
theorem agrees_dict {fields others : Table Value} (hlength : fields.length = others.length)
    (h : ∀ f ∈ fields, ∃ w, others.get? f.1 = some w ∧ agrees f.2 w = true) :
    agrees (.dict (named fields)) (.dict (named others)) = true := by
  have hentries : entriesAgree (named fields) (named others) = true := by
    clear hlength
    induction fields with
    | nil => rfl
    | cons field rest ih =>
        obtain ⟨name, v⟩ := field
        obtain ⟨⟨w, hlookup, hagrees⟩, hrest⟩ := List.forall_mem_cons.1 h
        rw [named_cons, entriesAgree, lookup_named, hlookup, ih hrest]
        simpa using hagrees
  rw [agrees, length_named, length_named, hlength, hentries]
  simp

theorem plain_toValue {c : Context} (hnodup : (Table.names c).Nodup)
    (hplain : ∀ f ∈ c, Plain f.2) : Plain (Context.toValue c) :=
  .dict hnodup hplain

end Value

end Clearance
