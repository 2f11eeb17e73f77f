import Clearance.Proofs.Schema.RoundTrip
import Clearance.Trail.Row

/-!
# Entries as rows

An entry in plain data is written as a row, and the entry that is read from the row is the same, but
for the order in which the dictionaries of its context have their entries.
-/

namespace Clearance

/-- An entry in plain data whose moments can be told in whole minutes. -/
structure AuditEntry.Valid (e : AuditEntry) : Prop where
  timestamp : e.timestamp.Portable
  context : e.context.toValue.Plain
  result_context : e.result.context.toValue.Plain
  result : e.result.Valid

/-- Whether two entries are equal but for the order of entries in their contexts. -/
structure AuditEntry.Agrees (e f : AuditEntry) : Prop where
  timestamp : e.timestamp = f.timestamp
  permission : e.permission = f.permission
  context : e.context.toValue.agrees f.context.toValue = true
  result : e.result = f.result

namespace Trail

open Value (named agrees)

/-- What agrees with a context is a context. -/
theorem exists_context {c : Context} {j : Json} (h : agrees c.toValue j.toValue = true) :
    ∃ c' : Context, j.toValue = c'.toValue := by
  cases j with
  | object members =>
      rw [Json.toValue, Json.toEntries_eq_named]
      exact Value.exists_dictOf_named _
  | _ => simp [Json.toValue, Context.toValue, agrees] at h

theorem readContext_render {c : Context} (h : c.toValue.Plain) :
    ∃ j c', Json.ofValue contextForm c.toValue = .ok j ∧
      readContext (Json.render (Json.asciiStyle .spaced) j) = .ok c' ∧
      agrees c.toValue (Context.toValue c') = true := by
  obtain ⟨j, hj, hfinite, hagrees⟩ := Json.ofValue_agrees h
  obtain ⟨c', hc'⟩ := exists_context hagrees
  refine ⟨j, c', hj, ?_, hc' ▸ hagrees⟩
  have hparse := Json.parse_render (Json.regular_asciiStyle .spaced) j hfinite
  simp only [readContext, hparse, hc', Schema.textDict_toValue]

theorem readResult_render {d : Decision} (hd : d.Valid) (hplain : d.context.toValue.Plain) :
    ∃ j, Schema.decisionDocument true d = .ok j ∧
      readResult (Json.render (Json.plainStyle .compact) j) = .ok d := by
  obtain ⟨j, hj, hfinite, hvalue⟩ := Schema.decisionDocument_eq true hplain
  refine ⟨j, hj, ?_⟩
  have hparse := Json.parse_render (Json.regular_plainStyle .compact) j hfinite
  simp only [readResult, hparse, hvalue, Schema.decision_value true hd]

/-- An entry whose contexts are plain data is written as a row, whatever its moments are. -/
theorem exists_ofEntry (id : Nat) {e : AuditEntry} (hcontext : e.context.toValue.Plain)
    (hresult : e.result.context.toValue.Plain) : ∃ r, Row.ofEntry id e = .ok r := by
  obtain ⟨context, hcontext, -⟩ := Json.ofValue_agrees hcontext
  obtain ⟨result, hresult, -⟩ := Schema.decisionDocument_eq true hresult
  exact ⟨_, by rw [Row.ofEntry, hcontext, hresult]; rfl⟩

/-- An entry is written as a row, from which an entry that agrees with it is read. -/
theorem entry_ofEntry (id : Nat) {e : AuditEntry} (h : e.Valid) :
    ∃ r e', Row.ofEntry id e = .ok r ∧ r.id = id ∧
      r.granted = .int (if e.result.granted then 1 else 0) ∧ r.entry = .ok e' ∧ e.Agrees e' := by
  obtain ⟨context, c', hcontext, hreadContext, hagrees⟩ := readContext_render h.context
  obtain ⟨result, hresult, hreadResult⟩ := readResult_render h.result h.result_context
  refine ⟨_, { e with context := c' }, by rw [Row.ofEntry, hcontext, hresult]; rfl, rfl, rfl, ?_, ?_⟩
  · simp only [Row.entry, Cell.content, hreadResult, Time.readIso_isoText h.timestamp, hreadContext,
      Except.mapError]
    rfl
  · exact ⟨rfl, rfl, hagrees, rfl⟩

end Trail

end Clearance
