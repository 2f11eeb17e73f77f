import Clearance.Proofs.Json.Written
import Clearance.Proofs.Schema.Decisions
import Clearance.Proofs.Time.Zones
import Clearance.Proofs.Trail.Row

/-!
# Entries read from their rows

What is read from the row of an entry has the permission of the entry and, but for context, moments
and rule, its decision, whatever the entry holds.  And the row of an entry can be read if its
moments are of the calendar and its rule is one that is read.
-/

namespace Clearance

/-- A decision at moments of the calendar, under a rule that can be read. -/
structure Decision.Genuine (d : Decision) : Prop where
  timestamp : d.timestamp.Genuine
  expiresAt : ∀ t, d.expiresAt = some t -> t.Genuine
  rule : ∀ r, d.rule = some r -> r.Valid

/-- An entry at a moment of the calendar, with a decision that can be read. -/
structure AuditEntry.Genuine (e : AuditEntry) : Prop where
  timestamp : e.timestamp.Genuine
  result : e.result.Genuine

theorem AuditEntry.Valid.genuine {e : AuditEntry} (h : e.Valid) : e.Genuine where
  timestamp := h.timestamp.genuine
  result :=
    { timestamp := h.result.timestamp.genuine
      expiresAt := fun t ht => (h.result.expiresAt t ht).genuine
      rule := h.result.rule }

/-- Whether an entry is what the row of another is read as. -/
def AuditEntry.ReadAs (e e' : AuditEntry) : Prop :=
  ∃ r, Trail.Row.ofEntry 0 e = .ok r ∧ r.entry = .ok e'

/-- Whether an entry is what remains of another: it agrees with it as far as that can be told. -/
structure AuditEntry.Recalled (e e' : AuditEntry) : Prop where
  read : e.ReadAs e'
  permission : e'.permission = e.permission
  result : e'.result =
    { e.result with
      context := e'.result.context
      timestamp := e'.result.timestamp
      expiresAt := e'.result.expiresAt
      rule := e'.result.rule }
  agrees : e.Valid -> e.Agrees e'

namespace Trail

/-! ## Rows and their documents -/

/-- The row of an entry holds the entry's cells and its two documents. -/
theorem exists_documents {id : Nat} {e : AuditEntry} {r : Row} (h : Row.ofEntry id e = .ok r) :
    ∃ context result, Json.ofValue contextForm e.context.toValue = .ok context ∧
      Schema.decisionDocument true e.result = .ok result ∧
      r = { id
            timestamp := .text e.timestamp.isoText
            permission := .text e.permission
            granted := .int (if e.result.granted then 1 else 0)
            source := .text e.result.source.name
            reason := (e.result.reason.map Cell.text).getD .null
            context := .text (Json.render (Json.asciiStyle .spaced) context)
            result := .text (Json.render (Json.plainStyle .compact) result) } := by
  rw [Row.ofEntry] at h
  obtain ⟨context, hcontext, h⟩ := exists_of_bind_ok h
  obtain ⟨result, hresult, h⟩ := exists_of_bind_ok h
  exact ⟨context, result, of_mapError_ok hcontext, of_mapError_ok hresult, (Except.ok.inj h).symm⟩

/-- The number of a row is no part of what it says. -/
theorem ofEntry_renumbered {id : Nat} {e : AuditEntry} {r : Row} (h : Row.ofEntry id e = .ok r)
    (other : Nat) : Row.ofEntry other e = .ok { r with id := other } := by
  obtain ⟨context, result, hcontext, hresult, rfl⟩ := exists_documents h
  rw [Row.ofEntry, hcontext, hresult]
  rfl

/-! ## The decision -/

/-- The decision in a row is read if its moments and its rule are, with all else that it says. -/
theorem readResult_iff {d : Decision} {j : Json} (h : Schema.decisionDocument true d = .ok j) :
    ∃ c : Context, ∀ d', readResult (Json.render (Json.plainStyle .compact) j) = .ok d' ↔
      ∃ t expires? rule?, Schema.timestamp (.str d.timestamp.zuluText) = .ok t ∧
        Schema.optional Schema.timestamp
          (Schema.optionalValue (fun t => .str t.zuluText) d.expiresAt) = .ok expires? ∧
        Schema.optional Schema.rule
          (Schema.optionalValue (Schema.ruleValue true) d.rule) = .ok rule? ∧
        d' = { d with context := c, timestamp := t, expiresAt := expires?, rule := rule? } := by
  obtain ⟨context, hcontext, -⟩ := exists_of_bind_ok h
  obtain ⟨members, rfl⟩ := Json.exists_object_of_valueDocument hcontext
  obtain ⟨c, hc⟩ := Json.exists_context_of_object members
  obtain ⟨j', hj', hfinite, hvalue⟩ := Schema.decisionDocument_of_context true hcontext
    (Json.isFinite_of_valueDocument hcontext) hc
  obtain rfl : j = j' := Except.ok.inj (h.symm.trans hj')
  refine ⟨c, fun d' => Iff.trans ?_ (@Schema.decision_fields_iff { d with context := c } d')⟩
  have hparse := Json.parse_render (Json.regular_plainStyle .compact) j hfinite
  simp only [readResult, hparse, hvalue]
  cases Schema.decision ((Schema.decisionFields true { d with context := c }).value true) with
  | ok found => simp only [Except.ok.injEq]
  | error issues => simp only [reduceCtorEq]

/-- A decision at moments of the calendar is read from its document. -/
theorem exists_readResult {d : Decision} {j : Json} (hd : d.Genuine)
    (h : Schema.decisionDocument true d = .ok j) :
    ∃ d', readResult (Json.render (Json.plainStyle .compact) j) = .ok d' := by
  have htimestamp {t : Timestamp} (ht : t.Genuine) :
      ∃ t', Schema.timestamp (.str t.zuluText) = .ok t' := by
    obtain ⟨offset, hread⟩ := Schema.exists_readMoment_zuluText ht
    have htext : Schema.textual? (.str t.zuluText) = some t.zuluText := rfl
    exact ⟨{ t with offset }, by simp only [Schema.timestamp, htext, hread]⟩
  have hexpires : ∃ expires?, Schema.optional Schema.timestamp
      (Schema.optionalValue (fun t => .str t.zuluText) d.expiresAt) = .ok expires? := by
    cases ht : d.expiresAt with
    | none => exact ⟨none, rfl⟩
    | some t =>
        obtain ⟨t', ht'⟩ := htimestamp (hd.expiresAt t ht)
        refine ⟨some t', ?_⟩
        simp only [Schema.optionalValue, Option.map_some, Option.getD_some, Schema.optional, ht']
        rfl
  obtain ⟨t, ht⟩ := htimestamp hd.timestamp
  obtain ⟨expires?, hexpires⟩ := hexpires
  have hrule : Schema.optional Schema.rule
      (Schema.optionalValue (Schema.ruleValue true) d.rule) = .ok d.rule :=
    Schema.optional_eq (fun r => Schema.Fields.value_ne_null true _)
      fun r hr => Schema.rule_value true (hd.rule r hr)
  obtain ⟨c, hc⟩ := readResult_iff h
  exact ⟨_, (hc _).2 ⟨t, expires?, d.rule, ht, hexpires, hrule, rfl⟩⟩

/-! ## The context -/

/-- A context is read from its document, also if there are numbers in it that are not finite. -/
theorem exists_readContext {c : Context} {j : Json}
    (h : Json.ofValue contextForm c.toValue = .ok j) :
    ∃ c', readContext (Json.render (Json.asciiStyle .spaced) j) = .ok c' := by
  obtain ⟨members, rfl⟩ := Json.exists_object_of_ofValue h
  obtain ⟨c', hc'⟩ :=
    Json.exists_context_of_object (Json.mapMembers Binary64.settled members)
  refine ⟨c', ?_⟩
  have hparse := Json.parse_render_ascii .spaced (.object members)
  rw [Json.mapReals] at hparse
  simp only [readContext, hparse, hc', Schema.textDict_toValue]

/-! ## The entry -/

/-- What the row of an entry is read as is what remains of the entry. -/
theorem recalled_of_readAs {e e' : AuditEntry} (h : e.ReadAs e') : e.Recalled e' := by
  have hread := h
  obtain ⟨r, hrow, hentry⟩ := h
  obtain ⟨context, result, hcontext, hresult, rfl⟩ := exists_documents hrow
  rw [Row.entry] at hentry
  obtain ⟨d', hd', hentry⟩ := exists_of_bind_ok hentry
  obtain ⟨t, ht, hentry⟩ := exists_of_bind_ok hentry
  obtain ⟨c', hc', hentry⟩ := exists_of_bind_ok hentry
  cases hentry
  obtain ⟨c, hc⟩ := readResult_iff hresult
  obtain ⟨moment, expires?, rule?, -, -, -, rfl⟩ := (hc d').1 hd'
  refine ⟨hread, rfl, rfl, fun hvalid => ?_⟩
  obtain ⟨r, found, hfound, -, -, hreads, hagrees⟩ := entry_ofEntry 0 hvalid
  obtain ⟨r', hrow', hreads'⟩ := hread
  obtain rfl : r = r' := Except.ok.inj (hfound.symm.trans hrow')
  rw [Except.ok.inj (hreads'.symm.trans hreads)]
  exact hagrees

/-- An entry at moments of the calendar is read from its row. -/
theorem exists_readAs {e : AuditEntry} (he : e.Genuine) {id : Nat} {r : Row}
    (h : Row.ofEntry id e = .ok r) : ∃ e', e.ReadAs e' := by
  have hrow := ofEntry_renumbered h 0
  obtain ⟨context, result, hcontext, hresult, rfl⟩ := exists_documents h
  obtain ⟨d', hd'⟩ := exists_readResult he.result hresult
  obtain ⟨offset, ht⟩ := Time.exists_readIso_isoText he.timestamp
  obtain ⟨c', hc'⟩ := exists_readContext hcontext
  refine ⟨{ e with timestamp := { e.timestamp with offset }, context := c', result := d' }, _, hrow,
    ?_⟩
  simp only [Row.entry, Cell.content, hd', ht, hc', Except.mapError]
  rfl

end Trail

end Clearance
