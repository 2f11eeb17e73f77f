import Clearance.Proofs.Json.Grammar
import Clearance.Proofs.Report.Summary
import Clearance.Report.Document

/-!
# Reports as texts

The text of a report is read as the report, with its timestamps as texts.  It keeps to the grammar
of JSON as long as no context holds a number that is not finite; such a number is written as a word
that the grammar has not.
-/

namespace Clearance

open Json.Grammar (IsText)

namespace Value

/-- Plain data, timestamps and numbers that need not be finite. -/
inductive Reportable : Value -> Prop where
  | null : Reportable .null
  | bool (b : Bool) : Reportable (.bool b)
  | int (n : Int) : Reportable (.int n)
  | real (x : Binary64) : Reportable (.real x)
  | str (s : String) : Reportable (.str s)
  | timestamp (t : Timestamp) : Reportable (.timestamp t)
  | list {items : List Value} (reportable : ∀ v ∈ items, Reportable v) : Reportable (.list items)
  | dict {fields : Table Value} (nodup : fields.names.Nodup)
      (reportable : ∀ f ∈ fields, Reportable f.2) : Reportable (.dict (named fields))

mutual

/-- Whether all numbers in a value are finite. -/
def isFinite : Value -> Bool
  | .real x => x.isFinite
  | .list items => areFinite items
  | .dict entries => haveFinite entries
  | _ => true

def areFinite : List Value -> Bool
  | [] => true
  | v :: rest => isFinite v && areFinite rest

def haveFinite : List (Value × Value) -> Bool
  | [] => true
  | (_, v) :: rest => isFinite v && haveFinite rest

end

mutual

/-- A value as the text of a report tells it. -/
def asReported : Value -> Value
  | .real x => .real x.settled
  | .timestamp t => .str t.isoText
  | .list items => .list (itemsAsReported items)
  | .dict entries => .dict (entriesAsReported entries)
  | v => v

def itemsAsReported : List Value -> List Value
  | [] => []
  | v :: rest => asReported v :: itemsAsReported rest

def entriesAsReported : List (Value × Value) -> List (Value × Value)
  | [] => []
  | (k, v) :: rest => (k, asReported v) :: entriesAsReported rest

end

/-- The value under a name in a dictionary. -/
def field? (name : String) : Value -> Option Value
  | .dict entries => lookup name entries
  | _ => none

theorem areFinite_iff {items : List Value} :
    areFinite items = true ↔ ∀ v ∈ items, v.isFinite = true := by
  induction items with
  | nil => simp [areFinite]
  | cons v rest ih => simp [areFinite, ih]

theorem haveFinite_iff {entries : List (Value × Value)} :
    haveFinite entries = true ↔ ∀ entry ∈ entries, entry.2.isFinite = true := by
  induction entries with
  | nil => simp [haveFinite]
  | cons entry rest ih => simp [haveFinite, ih]

theorem haveFinite_named {fields : Table Value} :
    haveFinite (named fields) = true ↔ ∀ f ∈ fields, f.2.isFinite = true := by
  rw [haveFinite_iff, named, List.forall_mem_map]

theorem itemsAsReported_eq_map (items : List Value) :
    itemsAsReported items = items.map asReported := by
  induction items with
  | nil => rfl
  | cons v rest ih => rw [itemsAsReported, ih, List.map_cons]

theorem Plain.reportable {v : Value} (h : Plain v) : Reportable v := by
  induction h with
  | null => exact .null
  | bool b => exact .bool b
  | int n => exact .int n
  | real _ => exact .real _
  | str s => exact .str s
  | list _ ih => exact .list ih
  | dict hnodup _ ih => exact .dict hnodup ih

theorem Plain.isFinite {v : Value} (h : Plain v) : v.isFinite = true := by
  induction h with
  | real hfinite => exact hfinite
  | list _ ih => exact areFinite_iff.2 ih
  | dict _ _ ih => exact haveFinite_named.2 ih
  | _ => rfl

end Value

open Value (Reportable named areFinite_iff haveFinite_named)

namespace Json

/-- A document with finite numbers denotes plain data. -/
theorem plain_toValue (j : Json) (hj : j.isFinite = true) : Value.Plain j.toValue := by
  induction j using nestedInduction with
  | null => exact .null
  | bool b => exact .bool b
  | int n => exact .int n
  | real x => exact .real hj
  | string s => exact .str s
  | array items ih =>
      rw [toValue, toValues_eq_map]
      exact .list (List.forall_mem_map.2 fun item hitem =>
        ih item hitem (Json.areFinite_iff.1 hj item hitem))
  | object members ih =>
      rw [toValue, toEntries_eq_named]
      exact Value.plain_dictOf (List.forall_mem_map.2 fun member hmember =>
        ih member hmember (haveFinite_iff.1 hj member hmember))

/-- The numbers that are read for others leave the names as they are. -/
theorem names_mapMembers (f : Binary64 -> Binary64) (members : List (String × Json)) :
    (mapMembers f members).map Prod.fst = members.map Prod.fst := by
  induction members with
  | nil => rfl
  | cons member rest ih => rw [mapMembers, List.map_cons, ih, List.map_cons]

end Json

namespace Report

open Json (ofValue itemDocuments memberDocuments written mapReals mapItems mapMembers fieldsOf)

/-! ## The document of a value -/

/-- A document tells a value: it has no other numbers, and it is read as what is reported. -/
structure Tells (v : Value) (j : Json) : Prop where
  isFinite : j.isFinite = v.isFinite
  toValue : (mapReals Binary64.settled j).toValue = v.asReported

theorem exists_items {items : List Value}
    (h : ∀ v ∈ items, ∃ j, ofValue form v = .ok j ∧ Tells v j) :
    ∃ js, (itemDocuments form items).mapM id = .ok js ∧ Tells (.list items) (.array js) := by
  induction items with
  | nil => exact ⟨[], rfl, rfl, rfl⟩
  | cons v rest ih =>
      obtain ⟨⟨j, hj, htells⟩, hrest⟩ := List.forall_mem_cons.1 h
      obtain ⟨js, hjs, htold⟩ := ih hrest
      have hfinite : Json.areFinite js = Value.areFinite rest := htold.isFinite
      have hvalues : Json.toValues (mapItems Binary64.settled js) = Value.itemsAsReported rest :=
        Value.list.inj htold.toValue
      refine ⟨j :: js, ?_, ?_, ?_⟩
      · rw [itemDocuments, List.mapM_cons, hj, hjs]
        rfl
      · rw [Json.isFinite, Json.areFinite, htells.isFinite, hfinite]
        rfl
      · rw [mapReals, mapItems, Json.toValue, Json.toValues, htells.toValue, hvalues]
        rfl

theorem exists_members {fields : Table Value}
    (h : ∀ f ∈ fields, ∃ j, ofValue form f.2 = .ok j ∧ Tells f.2 j) :
    ∃ members, memberDocuments form (named fields) = members.map written ∧
      members.map Prod.fst = fields.names ∧
      Json.haveFinite members = Value.haveFinite (named fields) ∧
      named (fieldsOf (mapMembers Binary64.settled members)) =
        Value.entriesAsReported (named fields) := by
  induction fields with
  | nil => exact ⟨[], rfl, rfl, rfl, rfl⟩
  | cons field rest ih =>
      obtain ⟨name, v⟩ := field
      obtain ⟨⟨j, hj, htells⟩, hrest⟩ := List.forall_mem_cons.1 h
      obtain ⟨members, hmembers, hnames, hfinite, hvalues⟩ := ih hrest
      refine ⟨(name, j) :: members, ?_, ?_, ?_, ?_⟩
      · rw [Value.named_cons, memberDocuments, hj, hmembers]
        rfl
      · rw [List.map_cons, hnames]
        rfl
      · rw [Value.named_cons, Json.haveFinite, Value.haveFinite, htells.isFinite, hfinite]
      · rw [Value.named_cons, Value.entriesAsReported, ← htells.toValue, ← hvalues]
        rfl

/-- Every such value has a document in a report, which tells it. -/
theorem exists_document {v : Value} (h : Reportable v) : ∃ j, ofValue form v = .ok j ∧ Tells v j := by
  induction h with
  | null => exact ⟨.null, rfl, rfl, rfl⟩
  | bool b => exact ⟨.bool b, rfl, rfl, rfl⟩
  | int n => exact ⟨.int n, rfl, rfl, rfl⟩
  | real x => exact ⟨.real x, rfl, rfl, rfl⟩
  | str s => exact ⟨.string s, rfl, rfl, rfl⟩
  | timestamp t => exact ⟨.string t.isoText, rfl, rfl, rfl⟩
  | list _ ih =>
      obtain ⟨js, hjs, htells⟩ := exists_items ih
      refine ⟨.array js, ?_, htells⟩
      rw [ofValue, hjs]
      rfl
  | dict hnodup _ ih =>
      obtain ⟨members, hmembers, hnames, hfinite, hvalues⟩ := exists_members ih
      refine ⟨.object members, ?_, hfinite, ?_⟩
      · rw [ofValue, hmembers, Json.ofMembers]
        simp only [form, Bool.false_and, Bool.false_eq_true, if_false, Json.mapM_written]
        rfl
      · have hnodup' : ((mapMembers Binary64.settled members).map Prod.fst).Nodup := by
          rw [Json.names_mapMembers, hnames]
          exact hnodup
        rw [mapReals, Json.toValue_object hnodup', hvalues]
        rfl

/-! ## The parts of a report -/

theorem haveFinite_filter {test : String × Json -> Bool} {members : List (String × Json)}
    (h : ∀ member ∈ members, member.2.isFinite = true) :
    Json.haveFinite (members.filter test) = true :=
  Json.haveFinite_iff.2 fun member hmember => h member (List.mem_filter.1 hmember).1

theorem isFinite_optionalText (s : Option String) : (Schema.optionalText s).isFinite = true := by
  cases s <;> rfl

theorem isFinite_conditionDocument (keepNull : Bool) (c : Condition) :
    (Schema.conditionDocument keepNull c).isFinite = true := by
  have hoperand : (Schema.operandDocument c.operand).isFinite = true := by
    cases c.operand with
    | one s => rfl
    | anyOf options => exact Json.areFinite_iff.2 (List.forall_mem_map.2 fun _ _ => rfl)
  refine haveFinite_filter ?_
  simp only [List.forall_mem_cons]
  exact ⟨rfl, rfl, hoperand, isFinite_optionalText _, List.forall_mem_nil _⟩

theorem isFinite_ruleDocument (keepNull : Bool) (r : Rule) :
    (Schema.ruleDocument keepNull r).isFinite = true := by
  refine haveFinite_filter ?_
  simp only [List.forall_mem_cons]
  refine ⟨rfl, rfl, ?_, isFinite_optionalText _, List.forall_mem_nil _⟩
  exact Json.areFinite_iff.2 (List.forall_mem_map.2 fun c _ => isFinite_conditionDocument keepNull c)

/-- A part that need not be there. -/
theorem plain_getD {α : Type} {f : α -> Value} (h : ∀ a, Value.Plain (f a)) (a : Option α) :
    Value.Plain ((a.map f).getD .null) := by
  cases a with
  | none => exact .null
  | some a => exact h a

theorem plain_isoValue (t : Option Timestamp) : Value.Plain (Summary.isoValue t) :=
  plain_getD (fun t : Timestamp => .str t.isoText) t

theorem plain_countsValue {c : Counts} (h : (Table.names c).Nodup) :
    Value.Plain (Summary.countsValue c) := by
  have hvalue : Summary.countsValue c =
      .dict (named (c.map fun entry => (entry.1, Value.int entry.2))) := by
    rw [named, List.map_map]
    rfl
  rw [hvalue]
  refine .dict ?_ (List.forall_mem_map.2 fun _ _ => .int _)
  rw [Table.names, List.map_map]
  exact h

theorem plain_summary (entries : List AuditEntry) : Value.Plain (Summary.of entries).toValue := by
  have hsources : (Table.names (Summary.of entries).bySource).Nodup :=
    Counts.nodup_names_ofList (Summary.sources entries)
  have hdenials : (Table.names (Summary.of entries).deniedByPermission).Nodup := by
    rw [Summary.deniedByPermission_of]
    exact ((Counts.byFrequency_perm _).map Prod.fst).nodup_iff.2 (Counts.nodup_names_ofList _)
  refine @Value.Plain.dict
    [ ("total", _), ("granted", _), ("denied", _), ("by_source", _), ("denied_by_permission", _),
      ("first_at", _), ("last_at", _) ] ?_ ?_
  · change List.Nodup ["total", "granted", "denied", "by_source", "denied_by_permission",
      "first_at", "last_at"]
    decide
  · simp only [List.forall_mem_cons]
    exact ⟨.int _, .int _, .int _, plain_countsValue hsources, plain_countsValue hdenials,
      plain_isoValue _, plain_isoValue _, List.forall_mem_nil _⟩

theorem plain_rule (r : Option Rule) :
    Value.Plain ((r.map fun r => (Schema.ruleDocument false r).toValue).getD .null) :=
  plain_getD (fun r => Json.plain_toValue _ (isFinite_ruleDocument false r)) r

theorem reportable_entryValue {e : AuditEntry} (h : Reportable e.context.toValue) (index : Nat) :
    Reportable (entryValue index e) := by
  refine @Reportable.dict
    [ ("index", _), ("timestamp", _), ("permission", _), ("granted", _), ("source", _),
      ("reason", _), ("context", _), ("expires_at", _), ("remaining_uses", _), ("rule", _) ] ?_ ?_
  · change List.Nodup ["index", "timestamp", "permission", "granted", "source", "reason", "context",
      "expires_at", "remaining_uses", "rule"]
    decide
  · simp only [List.forall_mem_cons]
    exact ⟨.int _, .str _, .str _, .bool _, .str _, (plain_getD .str _).reportable, h,
      (plain_isoValue _).reportable, (plain_getD .int _).reportable, (plain_rule _).reportable,
      List.forall_mem_nil _⟩

theorem isFinite_entryValue (index : Nat) (e : AuditEntry) :
    (entryValue index e).isFinite = e.context.toValue.isFinite := by
  have hreason := (plain_getD Value.Plain.str e.result.reason).isFinite
  have huses := (plain_getD Value.Plain.int e.result.remainingUses).isFinite
  simp only [entryValue, Value.isFinite, Value.haveFinite, hreason, huses,
    (plain_isoValue _).isFinite, (plain_rule _).isFinite, Bool.true_and, Bool.and_true]

theorem reportable_toValue {entries : List AuditEntry}
    (h : ∀ e ∈ entries, Reportable e.context.toValue) (generatedAt : String) :
    Reportable (toValue generatedAt entries) := by
  refine @Reportable.dict
    [("report_version", _), ("generated_at", _), ("summary", _), ("entries", _)] ?_ ?_
  · change List.Nodup ["report_version", "generated_at", "summary", "entries"]
    decide
  · simp only [List.forall_mem_cons]
    refine ⟨.str _, .str _, (plain_summary entries).reportable, .list fun v hv => ?_,
      List.forall_mem_nil _⟩
    obtain ⟨index, hindex, rfl⟩ := List.mem_mapIdx.1 hv
    exact reportable_entryValue (h _ (List.getElem_mem hindex)) index

/-- The numbers of a report are finite if those of the contexts are. -/
theorem isFinite_toValue (generatedAt : String) (entries : List AuditEntry) :
    (toValue generatedAt entries).isFinite = true ↔
      ∀ e ∈ entries, e.context.toValue.isFinite = true := by
  simp only [toValue, Value.isFinite, Value.haveFinite, (plain_summary entries).isFinite,
    Bool.true_and, Bool.and_true, areFinite_iff, entryValues]
  constructor
  · intro h e he
    obtain ⟨index, hindex, rfl⟩ := List.getElem_of_mem he
    rw [← isFinite_entryValue index]
    exact h _ (List.mem_mapIdx.2 ⟨index, hindex, rfl⟩)
  · intro h v hv
    obtain ⟨index, hindex, rfl⟩ := List.mem_mapIdx.1 hv
    rw [isFinite_entryValue]
    exact h _ (List.getElem_mem hindex)

/-! ## The text of a report -/

/-- A report is written in any layout, and it is a JSON text if its numbers are finite. -/
theorem exists_text {entries : List AuditEntry} (h : ∀ e ∈ entries, Reportable e.context.toValue)
    (generatedAt : String) (spread : Json.Spread) :
    ∃ text report, Report.text generatedAt entries spread = .ok text ∧
      Json.parse text = .ok report ∧ report.toValue = (toValue generatedAt entries).asReported ∧
      (IsText text.toList ↔ ∀ e ∈ entries, e.context.toValue.isFinite = true) := by
  obtain ⟨j, hj, htells⟩ := exists_document (reportable_toValue h generatedAt)
  refine ⟨Json.render (Json.asciiStyle spread) j, mapReals Binary64.settled j, ?_,
    Json.parse_render_ascii spread j, htells.toValue, ?_⟩
  · rw [Report.text, hj]
    rfl
  · rw [Json.isText_render_iff, htells.isFinite, isFinite_toValue]

/-- A denial at a moment of the calendar. -/
def noted (permission : String) (context : Context) : AuditEntry :=
  Decision.entry
    { granted := false, reason := some "unknown", permission, context, source := .default
      timestamp := { wall := Time.microsPerDay, offset := some 0 } }

/-- Denials with a moment, empty collections and a number in their contexts. -/
def measurements : List AuditEntry :=
  [ noted "sensor.read"
      [ ("at", .timestamp { wall := 0, offset := none }), ("tags", .list []),
        ("limits", .dict (named [("low", .list [.null, .dict (named [])])])) ],
    noted "sensor.write" [("load", .real (Binary64.ofInt 1))] ]

/-- A denial with a number in its context that is not finite. -/
def overload : AuditEntry :=
  noted "sensor.read" [("load", .real (Binary64.infinity false))]

end Report

end Clearance
