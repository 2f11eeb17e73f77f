import Clearance.Confirmation.Handler
import Clearance.Proofs.Json.Data
import Clearance.Proofs.Results

/-!
# Asking a service

A service says yes or no by a success whose body is an object with a truth value under `approved`;
of several members of that name the last one counts.  Only a yes approves.  A no, a lack of time
and everything else are refused for three different reasons.
-/

namespace Clearance

namespace Json

open Value (named)

theorem lookup_fieldsOf (name : String) (members : List (String × Json)) :
    (fieldsOf members).lookup name = (members.lookup name).map toValue := by
  induction members with
  | nil => rfl
  | cons member rest ih =>
      obtain ⟨other, j⟩ := member
      by_cases hname : name = other
      · simp [fieldsOf, hname]
      · simpa [fieldsOf, List.lookup_cons, beq_false_of_ne hname] using ih

/-- The value of an object holds the last of its members of a name. -/
theorem exists_toValue_object (members : List (String × Json)) :
    ∃ entries, (Json.object members).toValue = .dict entries ∧
      ∀ name, Value.lookup name entries = (members.reverse.lookup name).map toValue := by
  obtain ⟨others, hothers, hget⟩ := Value.exists_dictOf_get? (fieldsOf members)
  refine ⟨named others, ?_, fun name => ?_⟩
  · rw [toValue, toEntries_eq_named, hothers]
  · rw [Value.lookup_named, hget, ← lookup_fieldsOf, fieldsOf, fieldsOf, List.map_reverse]

theorem toValue_eq_bool_iff {j : Json} {b : Bool} : j.toValue = .bool b ↔ j = .bool b := by
  cases j <;> simp [toValue, Value.dictOf]

/-- An object holds a truth value under a name if its last member of that name is one. -/
theorem exists_lookup_bool_iff {j : Json} {name : String} {b : Bool} :
    (∃ entries, j.toValue = .dict entries ∧ Value.lookup name entries = some (.bool b)) ↔
      ∃ members, j = .object members ∧ members.reverse.lookup name = some (.bool b) := by
  constructor
  · rintro ⟨entries, hentries, hfound⟩
    cases j with
    | object members =>
        obtain ⟨others, hothers, hlookup⟩ := exists_toValue_object members
        cases hothers.symm.trans hentries
        rw [hlookup, Option.map_eq_some_iff] at hfound
        obtain ⟨found, hmember, hvalue⟩ := hfound
        exact ⟨members, rfl, by rw [hmember, toValue_eq_bool_iff.1 hvalue]⟩
    | _ => simp [toValue] at hentries
  · rintro ⟨members, rfl, hmember⟩
    obtain ⟨entries, hentries, hlookup⟩ := exists_toValue_object members
    exact ⟨entries, hentries, by rw [hlookup, hmember]; rfl⟩

end Json

theorem Schema.inquiryDocument_eq {i : Inquiry} (h : i.context.toValue.Plain) :
    ∃ body, inquiryDocument true i = .ok body ∧ body.isFinite = true ∧
      body.toValue = .dict (Value.named
        [ ("permission", .str i.permission), ("risk", .str i.risk.name),
          ("context", i.context.toValue) ]) := by
  obtain ⟨context, hcontext, hfinite, hvalue⟩ := Json.valueDocument_eq true h
  let members : List (String × Json) :=
    [ ("permission", .string i.permission), ("risk", .string i.risk.name), ("context", context) ]
  have hnames : (members.map Prod.fst).Nodup :=
    (by decide : ["permission", "risk", "context"].Nodup)
  refine ⟨.object members, by rw [inquiryDocument, contextDocument, hcontext]; rfl, ?_, ?_⟩
  · simp [members, Json.isFinite, Json.haveFinite, hfinite]
  · rw [Json.toValue_object hnames]
    simp [members, Json.fieldsOf, Json.toValue, hvalue]

namespace Confirmation

/-- A success whose body is an object with a truth value under `approved`. -/
def Reaction.Says (yes : Bool) (r : Reaction) : Prop :=
  ∃ status body document entries,
    r = .response status body ∧ 200 ≤ status.code ∧ status.code < 300 ∧
      Json.ofBody body = .ok document ∧ document.toValue = .dict entries ∧
      Value.lookup "approved" entries = some (.bool yes)

theorem Status.isSuccess_iff {s : Status} :
    s.isSuccess = true ↔ 200 ≤ s.code ∧ s.code < 300 := by
  rw [isSuccess, beq_iff_eq]
  omega

theorem Reaction.Says.unique {r : Reaction} {yes other : Bool} (h : r.Says yes)
    (h' : r.Says other) : yes = other := by
  obtain ⟨_, _, _, _, rfl, -, -, hdocument, hentries, hlookup⟩ := h
  obtain ⟨_, _, _, _, hsame, -, -, hdocument', hentries', hlookup'⟩ := h'
  cases hsame
  cases hdocument.symm.trans hdocument'
  cases hentries.symm.trans hentries'
  cases hlookup.symm.trans hlookup'
  rfl

namespace Service

variable {permission body : String} {yes : Bool} {s : Service}

theorem approval_eq_ok_iff :
    approval permission body = .ok yes ↔
      ∃ document entries, Json.ofBody body = .ok document ∧ document.toValue = .dict entries ∧
        Value.lookup "approved" entries = some (.bool yes) := by
  simp only [exists_and_left, Json.exists_lookup_bool_iff]
  unfold approval
  cases Json.ofBody body with
  | error f => exact ⟨nofun, nofun⟩
  | ok document =>
      cases document with
      | object members =>
          dsimp only
          split
          · rename_i found hfound
            simp [hfound]
          · rename_i hnone
            simpa using hnone yes
      | _ => simp

/-- A body that says neither yes nor no is told as a failure of its own. -/
theorem kind_of_approval_error {f : Fault} (h : approval permission body = .error f) :
    f.kind = .confirmation permission := by
  unfold approval at h
  dsimp only at h
  split at h
  · cases h
    rfl
  · split at h
    · cases h
    · cases h
      rfl
  · cases h
    rfl

theorem judge_eq_ok_iff : judge permission s = .ok yes ↔ s.reaction.Says yes := by
  obtain ⟨url, seconds, reaction⟩ := s
  cases reaction with
  | response status body =>
      have hyes : (Reaction.response status body).Says yes ↔
          status.isSuccess = true ∧ approval permission body = .ok yes := by
        rw [Status.isSuccess_iff, approval_eq_ok_iff]
        constructor
        · rintro ⟨_, _, document, entries, ⟨⟩, hleast, hmost, hrest⟩
          exact ⟨⟨hleast, hmost⟩, document, entries, hrest⟩
        · rintro ⟨⟨hleast, hmost⟩, document, entries, hrest⟩
          exact ⟨status, body, document, entries, rfl, hleast, hmost, hrest⟩
      rw [hyes]
      by_cases hsuccess : status.isSuccess = true
      · simp [judge, hsuccess, mapError_eq_ok_iff]
      · simp [judge, hsuccess]
  | timeout => exact ⟨nofun, nofun⟩
  | failure message => exact ⟨nofun, nofun⟩
  | misuse kind message => exact ⟨nofun, nofun⟩

/-- What says neither yes nor no within its time is told as a failure. -/
theorem reply_of_judge_error {fault : ServiceFault} (h : judge permission s = .error fault)
    (htime : s.reaction ≠ .timeout) :
    (∃ kind message, fault = .misuse kind message) ∨
      ∃ f, fault = .fault f ∧ (Raised.fault f).reply = .failed f.text := by
  obtain ⟨url, seconds, reaction⟩ := s
  cases reaction with
  | timeout => exact absurd rfl htime
  | failure message =>
      cases h
      exact .inr ⟨_, rfl, rfl⟩
  | misuse kind message =>
      cases h
      exact .inl ⟨kind, message, rfl⟩
  | response status body =>
      by_cases hsuccess : status.isSuccess = true
      · have htold : (approval permission body).mapError ServiceFault.fault = .error fault := by
          simpa [judge, hsuccess] using h
        cases happroval : approval permission body with
        | ok yes =>
            rw [happroval] at htold
            cases htold
        | error f =>
            rw [happroval] at htold
            cases htold
            refine .inr ⟨f, rfl, ?_⟩
            rw [Raised.reply, kind_of_approval_error happroval]
      · have htold : judge permission
            { url, timeoutSeconds := seconds, reaction := .response status body } =
              .error (.fault (Fault.of
                (.confirmationTransport permission url (status.message url)))) := by
          simp [judge, hsuccess]
        cases htold.symm.trans h
        exact .inr ⟨_, rfl, rfl⟩

end Service

/-- What is made of a reaction: its yes or no, a lack of time, or a failure. -/
inductive Reaction.Told (r : Reaction) : Reply -> Prop
  | answered {yes : Bool} (said : r.Says yes) : Told r (.answered yes)
  | timedOut (late : r = .timeout) : Told r .timedOut
  | failed (message : String) (silent : ∀ yes, ¬ r.Says yes) (timely : r ≠ .timeout) :
      Told r (.failed message)

/-- A service is sent one inquiry, and its reaction is told. -/
theorem Handler.ask_service {Work : Type} {i : Inquiry} {s : Service} {body : Json}
    (hbody : Schema.inquiryDocument true i = .ok body) :
    ∃ reply, (Handler.service s : Handler Work).ask i =
        (some reply, [.inquiry i, .post { url := s.url, body }]) ∧ s.reaction.Told reply := by
  have hask : s.ask i = (s.judge i.permission, [{ url := s.url, body }]) := by
    rw [Service.ask, hbody]
  rw [Handler.ask, hask]
  refine ⟨_, rfl, ?_⟩
  cases hjudge : s.judge i.permission with
  | ok yes => exact .answered (Service.judge_eq_ok_iff.1 hjudge)
  | error fault =>
      have hsilent (yes : Bool) : ¬ s.reaction.Says yes := fun hyes => by
        cases hjudge.symm.trans (Service.judge_eq_ok_iff.2 hyes)
      by_cases htime : s.reaction = .timeout
      · rw [Service.judge, htime] at hjudge
        cases hjudge
        exact .timedOut htime
      · obtain ⟨kind, message, rfl⟩ | ⟨f, rfl, hreply⟩ := Service.reply_of_judge_error hjudge htime
        · exact .failed message hsilent htime
        · dsimp only
          rw [hreply]
          exact .failed _ hsilent htime

/-- What is told as a failure can be told from a no and from a lack of time. -/
theorem failedReason_ne {message reason : String}
    (h : reason = "User confirmation denied" ∨ reason = "User confirmation timed out") :
    failedReason message ≠ reason := by
  intro hsame
  have hlength : 18 < "User confirmation failed: ".toList.length := by decide +kernel
  have hfailed : "User confirmation failed: ".toList[18]? = some 'f' := by decide +kernel
  have happend : (failedReason message).toList =
      "User confirmation failed: ".toList ++ message.toList :=
    String.toList_append
  have hnext : (failedReason message).toList[18]? = some 'f' := by
    rw [happend, List.getElem?_append_left hlength]
    exact hfailed
  rw [hsame] at hnext
  obtain rfl | rfl := h
  · exact absurd hnext (by decide +kernel)
  · exact absurd hnext (by decide +kernel)

end Confirmation

end Clearance
