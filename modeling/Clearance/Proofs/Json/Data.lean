import Clearance.Json.OfValue
import Clearance.Proofs.Json.RoundTrip
import Clearance.Proofs.Value.Plain
import Clearance.Schema.Document
import Clearance.Trail.Row

/-!
# Plain data as documents

Plain data has a document in which all numbers are finite.  A record keeps the order of entries, so
the document denotes the data itself; where keys are put in order it denotes data that agrees.
-/

namespace Clearance.Json

open Value (Plain named agrees)

/-- The members of an object as entries under names. -/
def fieldsOf (members : List (String × Json)) : Table Value :=
  members.map fun (name, j) => (name, j.toValue)

theorem toEntries_eq_named (members : List (String × Json)) :
    toEntries members = named (fieldsOf members) := by
  induction members with
  | nil => rfl
  | cons member rest ih =>
      obtain ⟨name, j⟩ := member
      rw [toEntries, ih]
      rfl

theorem toValues_eq_map (items : List Json) : toValues items = items.map toValue := by
  induction items with
  | nil => rfl
  | cons item rest ih => rw [toValues, ih, List.map_cons]

theorem names_fieldsOf (members : List (String × Json)) :
    (fieldsOf members).names = members.map Prod.fst := by
  simp [fieldsOf, Table.names]

theorem toValue_object {members : List (String × Json)} (h : (members.map Prod.fst).Nodup) :
    (Json.object members).toValue = .dict (named (fieldsOf members)) := by
  rw [toValue, toEntries_eq_named, Value.dictOf_named (by rwa [names_fieldsOf])]

/-! ## In the given order -/

theorem itemDocuments_eq {keepNull : Bool} {items : List Value}
    (h : ∀ v ∈ items, ∃ j, Schema.valueDocument keepNull v = .ok j ∧ j.isFinite = true ∧
      j.toValue = v) :
    ∃ js, Schema.itemDocuments keepNull items = .ok js ∧ areFinite js = true ∧
      js.map toValue = items := by
  induction items with
  | nil => exact ⟨[], rfl, rfl, rfl⟩
  | cons v rest ih =>
      obtain ⟨hv, hrest⟩ := List.forall_mem_cons.1 h
      obtain ⟨j, hj, hfinite, hvalue⟩ := hv
      obtain ⟨js, hjs, hfinites, hvalues⟩ := ih hrest
      refine ⟨j :: js, ?_, ?_, ?_⟩
      · rw [Schema.itemDocuments, hj, hjs]
        rfl
      · rw [areFinite, hfinite, hfinites]
        rfl
      · rw [List.map_cons, hvalue, hvalues]

theorem entryDocuments_eq {keepNull : Bool} {fields : Table Value}
    (h : ∀ f ∈ fields, ∃ j, Schema.valueDocument keepNull f.2 = .ok j ∧ j.isFinite = true ∧
      j.toValue = f.2) :
    ∃ members, Schema.entryDocuments keepNull (named fields) = .ok members ∧
      haveFinite members = true ∧ fieldsOf members = fields := by
  induction fields with
  | nil => exact ⟨[], rfl, rfl, rfl⟩
  | cons field rest ih =>
      obtain ⟨name, v⟩ := field
      obtain ⟨hv, hrest⟩ := List.forall_mem_cons.1 h
      obtain ⟨j, hj, hfinite, hvalue⟩ := hv
      obtain ⟨members, hmembers, hfinites, hfields⟩ := ih hrest
      refine ⟨(name, j) :: members, ?_, ?_, ?_⟩
      · rw [Value.named_cons, Schema.entryDocuments, Schema.keyText, hj, hmembers]
        rfl
      · rw [haveFinite, hfinite, hfinites]
        rfl
      · rw [← hfields]
        exact congrArg (fun w => (name, w) :: fieldsOf members) hvalue

/-- Plain data is denoted by its document. -/
theorem valueDocument_eq (keepNull : Bool) {v : Value} (h : Plain v) :
    ∃ j, Schema.valueDocument keepNull v = .ok j ∧ j.isFinite = true ∧ j.toValue = v := by
  induction h with
  | null => exact ⟨.null, rfl, rfl, rfl⟩
  | bool b => exact ⟨.bool b, rfl, rfl, rfl⟩
  | int n => exact ⟨.int n, rfl, rfl, rfl⟩
  | @real x hfinite =>
      refine ⟨.real x, ?_, hfinite, rfl⟩
      rw [Schema.valueDocument, if_pos hfinite]
  | str s => exact ⟨.string s, rfl, rfl, rfl⟩
  | @list items _ ih =>
      obtain ⟨js, hjs, hfinite, hvalues⟩ := itemDocuments_eq ih
      refine ⟨.array js, ?_, hfinite, ?_⟩
      · rw [Schema.valueDocument, hjs]
        rfl
      · rw [toValue, toValues_eq_map, hvalues]
  | @dict fields hnodup _ ih =>
      obtain ⟨members, hmembers, hfinite, hfields⟩ := entryDocuments_eq ih
      refine ⟨.object members, ?_, hfinite, ?_⟩
      · rw [Schema.valueDocument, hmembers]
        rfl
      · rw [← hfields, names_fieldsOf] at hnodup
        rw [toValue_object hnodup, hfields]

/-! ## With the keys in order -/

/-- A member whose document is there. -/
def written (member : String × Json) : Value × Except OfValueFault Json :=
  (.str member.1, .ok member.2)

theorem areOrdered_written (members : List (String × Json)) :
    areOrdered ((members.map written).map Prod.fst) = true := by
  cases members with
  | nil => rfl
  | cons member rest => simp [areOrdered, written, keyBelow?]

/-- The member behind a document that is there. -/
def unwritten : Value × Except OfValueFault Json -> String × Json
  | (.str name, .ok j) => (name, j)
  | _ => ("", .null)

/-- Putting members in order is a permutation of them. -/
theorem exists_perm_sortMembers (members : List (String × Json)) :
    ∃ ordered : List (String × Json),
      sortMembers (members.map written) = ordered.map written ∧ ordered.Perm members := by
  have hperm : (sortMembers (members.map written)).Perm (members.map written) :=
    List.mergeSort_perm _ _
  have hinverse : (members.map written).map unwritten = members := by
    rw [List.map_map]
    exact List.map_id _
  refine ⟨(sortMembers (members.map written)).map unwritten, ?_, ?_⟩
  · rw [List.map_map]
    refine (List.map_id _).symm.trans (List.map_congr_left fun m hm => ?_)
    obtain ⟨member, -, rfl⟩ := List.mem_map.1 (hperm.mem_iff.1 hm)
    rfl
  · rw [← hinverse, List.map_map, ← List.map_map, hinverse]
    exact (hperm.map unwritten).trans (by rw [hinverse])

theorem mapM_written (members : List (String × Json)) :
    ((members.map written).mapM fun (k, j) => do
      let name <- keyText k
      let j <- j
      return (name, j)) = .ok members := by
  induction members with
  | nil => rfl
  | cons member rest ih =>
      rw [List.map_cons, List.mapM_cons, ih]
      rfl

theorem ofMembers_written (members : List (String × Json)) :
    ∃ ordered, ofMembers Trail.contextForm (members.map written) = .ok (.object ordered) ∧
      ordered.Perm members := by
  obtain ⟨ordered, hsorted, hperm⟩ := exists_perm_sortMembers members
  refine ⟨ordered, ?_, hperm⟩
  unfold ofMembers
  rw [areOrdered_written]
  simp only [Trail.contextForm, Bool.not_true, Bool.and_false, Bool.false_eq_true, if_false, if_true,
    hsorted, mapM_written]
  rfl

theorem itemDocuments_form {items : List Value}
    (h : ∀ v ∈ items, ∃ j, ofValue Trail.contextForm v = .ok j ∧ j.isFinite = true ∧
      agrees v j.toValue = true) :
    ∃ js, (itemDocuments Trail.contextForm items).mapM id = .ok js ∧ areFinite js = true ∧
      Value.itemsAgree items (js.map toValue) = true := by
  induction items with
  | nil => exact ⟨[], rfl, rfl, rfl⟩
  | cons v rest ih =>
      obtain ⟨hv, hrest⟩ := List.forall_mem_cons.1 h
      obtain ⟨j, hj, hfinite, hvalue⟩ := hv
      obtain ⟨js, hjs, hfinites, hvalues⟩ := ih hrest
      refine ⟨j :: js, ?_, ?_, ?_⟩
      · rw [itemDocuments, List.mapM_cons, hj, hjs]
        rfl
      · rw [areFinite, hfinite, hfinites]
        rfl
      · rw [List.map_cons, Value.itemsAgree, hvalue, hvalues]
        rfl

theorem memberDocuments_form {fields : Table Value}
    (h : ∀ f ∈ fields, ∃ j, ofValue Trail.contextForm f.2 = .ok j ∧ j.isFinite = true ∧
      agrees f.2 j.toValue = true) :
    ∃ members, memberDocuments Trail.contextForm (named fields) = members.map written ∧
      haveFinite members = true ∧ members.map Prod.fst = fields.names ∧
      ∀ f ∈ fields, ∃ j, (f.1, j) ∈ members ∧ agrees f.2 j.toValue = true := by
  induction fields with
  | nil => exact ⟨[], rfl, rfl, rfl, by simp⟩
  | cons field rest ih =>
      obtain ⟨name, v⟩ := field
      obtain ⟨hv, hrest⟩ := List.forall_mem_cons.1 h
      obtain ⟨j, hj, hfinite, hvalue⟩ := hv
      obtain ⟨members, hmembers, hfinites, hnames, hvalues⟩ := ih hrest
      refine ⟨(name, j) :: members, ?_, ?_, ?_, ?_⟩
      · rw [Value.named_cons, memberDocuments, hj, hmembers]
        rfl
      · rw [haveFinite, hfinite, hfinites]
        rfl
      · rw [List.map_cons, hnames]
        rfl
      · refine List.forall_mem_cons.2 ⟨⟨j, List.mem_cons_self .., hvalue⟩, fun f hf => ?_⟩
        obtain ⟨j, hj, hagrees⟩ := hvalues f hf
        exact ⟨j, List.mem_cons_of_mem _ hj, hagrees⟩

/-- Plain data agrees with what its document with ordered keys denotes. -/
theorem ofValue_agrees {v : Value} (h : Plain v) :
    ∃ j, ofValue Trail.contextForm v = .ok j ∧ j.isFinite = true ∧ agrees v j.toValue = true := by
  induction h with
  | null => exact ⟨.null, rfl, rfl, rfl⟩
  | bool b => exact ⟨.bool b, rfl, rfl, by simp [toValue, agrees]⟩
  | int n => exact ⟨.int n, rfl, rfl, by simp [toValue, agrees]⟩
  | @real x hfinite => exact ⟨.real x, rfl, hfinite, by simp [toValue, agrees]⟩
  | str s => exact ⟨.string s, rfl, rfl, by simp [toValue, agrees]⟩
  | @list items _ ih =>
      obtain ⟨js, hjs, hfinite, hvalues⟩ := itemDocuments_form ih
      refine ⟨.array js, ?_, hfinite, ?_⟩
      · rw [ofValue, hjs]
        rfl
      · rw [toValue, toValues_eq_map, agrees, hvalues]
  | @dict fields hnodup _ ih =>
      obtain ⟨members, hmembers, hfinite, hnames, hvalues⟩ := memberDocuments_form ih
      obtain ⟨ordered, hordered, hperm⟩ := ofMembers_written members
      have hnodup' : (ordered.map Prod.fst).Nodup := by
        rw [(hperm.map Prod.fst).nodup_iff, hnames]
        exact hnodup
      refine ⟨.object ordered, ?_, ?_, ?_⟩
      · rw [ofValue, hmembers]
        exact hordered
      · exact haveFinite_iff.2 fun member hmember =>
          haveFinite_iff.1 hfinite member (hperm.mem_iff.1 hmember)
      · rw [toValue_object hnodup']
        refine Value.agrees_dict ?_ fun f hf => ?_
        · have hlength := congrArg List.length hnames
          rw [List.length_map] at hlength
          rw [fieldsOf, List.length_map, hperm.length_eq, hlength, Table.names, List.length_map]
        · obtain ⟨j, hj, hagrees⟩ := hvalues f hf
          refine ⟨j.toValue, ?_, hagrees⟩
          refine (Table.get?_eq_some_iff (by rwa [names_fieldsOf])).2 ?_
          exact List.mem_map.2 ⟨(f.1, j), hperm.mem_iff.2 hj, rfl⟩

end Clearance.Json
