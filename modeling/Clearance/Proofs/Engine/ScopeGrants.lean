import Clearance.Proofs.Engine.Management
import Clearance.Proofs.Engine.Transfer
import Clearance.Proofs.Engine.Verdict

/-!
# Granting a scope

A scope is granted by the names of its permissions, and a granted name is a pattern: it covers the
names below it and, with a star, those that begin alike.  So every permission of the scope is
granted, and with it those of other scopes whose names are covered.  Nothing else changes.
-/

namespace Clearance

namespace Grants

/-! ## Granting several names -/

theorem covers_grant {granted name : String} {g : Grants} :
    (g.grant granted).Covers name ↔ Pattern.GrantCovers granted name ∨ g.Covers name := by
  simp only [Covers, grant, mem_insertName]
  constructor
  · rintro ⟨other, rfl | hmem, hcovers⟩
    · exact .inl hcovers
    · exact .inr ⟨other, hmem, hcovers⟩
  · rintro (hcovers | ⟨other, hmem, hcovers⟩)
    · exact ⟨granted, .inl rfl, hcovers⟩
    · exact ⟨other, .inr hmem, hcovers⟩

theorem covers_grantAll {names : List String} {name : String} {g : Grants} :
    (names.foldl (fun g granted => g.grant granted) g).Covers name ↔
      (∃ granted ∈ names, Pattern.GrantCovers granted name) ∨ g.Covers name := by
  induction names generalizing g with
  | nil => simp
  | cons first rest ih =>
      rw [List.foldl_cons, ih, covers_grant, List.exists_mem_cons_iff]
      exact or_left_comm.trans or_assoc.symm

theorem temporary_grantAll (names : List String) (g : Grants) :
    (names.foldl (fun g granted => g.grant granted) g).temporary = g.temporary := by
  induction names generalizing g with
  | nil => rfl
  | cons first rest ih =>
      rw [List.foldl_cons, ih]
      rfl

end Grants

namespace Engine

open Confirmation (Outcome)

variable {Work : Type}

/-- What is found by a standing grant, with what comes of a confirmation. -/
def Finding.ofStanding (p : Permission) (o : Outcome) : Finding :=
  Finding.ofOutcome (if p.requiresConfirmation then o else .approved)

/-! ## Checks of a name that is covered -/

section

variable {catalog : Catalog} {policy : Policy} {g g' : Grants} {clock next : Clock} {r : Request}
  {o : Outcome} {p : Permission} {now : Timestamp}

/-- Without a narrow grant a name that is covered is decided by the standing grant. -/
theorem comesTo_of_covers (hp : catalog.get? r.permission = some p)
    (hread : clock.read = (.ok now, next)) (hinactive : ¬ g.Active r.permission now)
    (hspent : ¬ g.HasUses r.permission) (hcovers : g.Covers r.permission) :
    comesTo catalog policy g clock r o =
      (({ clock := next } : Engine Unit).conclude r (Finding.ofStanding p o)).1 := by
  obtain ⟨granted, hcover⟩ := Option.isSome_iff_exists.1
    (Grants.standingCover?_isSome_iff.2 hcovers)
  simp only [comesTo, hp, hread, lookup_of_cover p policy (Grants.expiry?_eq_none_iff.2 hinactive)
    (Grants.usesLeft_eq_zero_iff.2 hspent) hcover, Finding.ofStanding]
  cases p.requiresConfirmation <;> rfl

/-- What a check comes to depends on the grants by what is looked up alone. -/
theorem comesTo_congr
    (h : ∀ p now, clock.read.1 = .ok now ->
      (lookup p policy r now g').1 = (lookup p policy r now g).1) :
    comesTo catalog policy g' clock r o = comesTo catalog policy g clock r o := by
  simp only [comesTo]
  cases catalog.get? r.permission with
  | none => rfl
  | some p =>
      rcases hread : clock.read with ⟨fault | now, next⟩
      · rfl
      · simp only [h p now (by rw [hread])]

/-- More standing grants change a lookup only if the name was not granted before, and is now. -/
theorem fst_lookup_of_standing (htemporary : g'.temporary = g.temporary)
    (hlimited : g'.limited = g.limited) (hcovers : g.Covers r.permission -> g'.Covers r.permission)
    (h : Ungranted r.permission now g -> ¬ g'.Covers r.permission) :
    (lookup p policy r now g').1 = (lookup p policy r now g).1 := by
  have hexpiry : g'.expiry? r.permission now = g.expiry? r.permission now := by
    rw [Grants.expiry?, htemporary, Grants.expiry?]
  have huses : g'.usesLeft r.permission = g.usesLeft r.permission := by
    rw [Grants.usesLeft, hlimited, Grants.usesLeft]
  rcases Grants.consume_cases r.permission now g with ⟨expiry, hactive, -⟩ |
    ⟨n, hinactive, hleft, -⟩ | ⟨hinactive, hspent, -⟩
  · rw [lookup_of_expiry p policy hactive, lookup_of_expiry p policy (hexpiry.trans hactive)]
  · rw [lookup_of_usesLeft p policy hinactive hleft,
      lookup_of_usesLeft p policy (hexpiry.trans hinactive) (huses.trans hleft)]
  · have hinactive' := hexpiry.trans hinactive
    have hspent' := huses.trans hspent
    cases hcover : g.standingCover? r.permission with
    | none =>
        have hungranted : Ungranted r.permission now g :=
          ⟨Grants.expiry?_eq_none_iff.1 hinactive, Grants.usesLeft_eq_zero_iff.1 hspent,
            Grants.standingCover?_eq_none_iff.1 hcover⟩
        have hcover' := Grants.standingCover?_eq_none_iff.2 (h hungranted)
        rw [lookup_of_no_cover p policy hinactive hspent hcover,
          lookup_of_no_cover p policy hinactive' hspent' hcover']
    | some granted =>
        have hcovered : g.Covers r.permission :=
          Grants.standingCover?_isSome_iff.1 (Option.isSome_of_eq_some hcover)
        obtain ⟨granted', hcover'⟩ := Option.isSome_iff_exists.1
          (Grants.standingCover?_isSome_iff.2 (hcovers hcovered))
        rw [lookup_of_cover p policy hinactive hspent hcover,
          lookup_of_cover p policy hinactive' hspent' hcover']
        rfl

end

/-! ## The grants of a scope -/

/-- A permission of a scope has a name that, once granted, covers a name. -/
def ScopeCovers (scope : Scope) (name : String) (e : Engine Work) : Prop :=
  ∃ q ∈ e.catalog.permissions, q.scope = scope ∧ Pattern.GrantCovers q.name name

theorem covers_grantScope {scope : Scope} {name : String} {e : Engine Work} :
    (e.grantScope scope).2.grants.Covers name ↔
      e.ScopeCovers scope name ∨ e.grants.Covers name := by
  rw [grantScope, Grants.covers_grantAll]
  simp [ScopeCovers, Catalog.withScope, and_assoc]

theorem manage_grantScope {v : Value} {scope : Scope} (h : Scope.ofValue v = .ok scope)
    (e : Engine Work) : (e.manage (.grantScope v)).2 = (e.grantScope scope).2 := by
  simp only [manage, h]
  rfl

/-- What a check comes to when a scope has been granted. -/
theorem concluded_grantScope {scope : Scope} {r : Request} {o : Outcome} {e : Engine Work}
    (h : e.MayConfirm o) :
    (e.grantScope scope).2.concluded r o =
      comesTo e.catalog e.policy (e.grantScope scope).2.grants e.clock r o :=
  concluded_eq_comesTo r h

/-- A name that is covered then, and has no narrow grant, is decided by the standing grant. -/
theorem concluded_of_scopeCovers {scope : Scope} {r : Request} {o : Outcome} {e : Engine Work}
    {p : Permission} {now later : Timestamp} {next last : Clock} (hp : e.Registered r p)
    (ho : e.MayConfirm o) (hread : e.clock.read = (.ok now, next))
    (hlater : next.read = (.ok later, last)) (hinactive : ¬ e.grants.Active r.permission now)
    (hspent : ¬ e.grants.HasUses r.permission) (hcovers : e.ScopeCovers scope r.permission) :
    (e.grantScope scope).2.concluded r o = .ok ((Finding.ofStanding p o).decision r later) := by
  have htemporary : (e.grantScope scope).2.grants.temporary = e.grants.temporary :=
    Grants.temporary_grantAll _ _
  have hlimited : (e.grantScope scope).2.grants.limited = e.grants.limited :=
    Grants.limited_grantAll _ _
  rw [concluded_grantScope ho, comesTo_of_covers hp.get? hread]
  · simp only [conclude, stamp, Engine.now, hlater]
  · rwa [Grants.Active, htemporary]
  · rwa [Grants.HasUses, hlimited]
  · exact covers_grantScope.2 (.inl hcovers)

/-- A name that is not covered then, or was granted before, is decided as it was. -/
theorem concluded_of_not_scopeCovers {scope : Scope} {r : Request} {o : Outcome} {e : Engine Work}
    (ho : e.MayConfirm o)
    (h : ∀ now, e.clock.read.1 = .ok now -> Ungranted r.permission now e.grants ->
      ¬ e.ScopeCovers scope r.permission) :
    (e.grantScope scope).2.concluded r o = e.concluded r o := by
  rw [concluded_grantScope ho, concluded_eq_comesTo r ho]
  apply comesTo_congr
  intro p now hread
  apply fst_lookup_of_standing
  · exact Grants.temporary_grantAll _ _
  · exact Grants.limited_grantAll _ _
  · intro hcovers
    exact covers_grantScope.2 (.inr hcovers)
  · intro hungranted hcovers
    exact (covers_grantScope.1 hcovers).elim (h now hread hungranted) hungranted.2.2

/-- What comes of a check that is made alone while the clock is in a certain state. -/
def checkAlone (r : Request) (o : Outcome) (clock : Clock) (e : Engine Work) : List Check :=
  (Traffic.run [.start r, .finish 0 o] { engine := { e with clock } }).checks

theorem checkAlone_eq (r : Request) (o : Outcome) (clock : Clock) (e : Engine Work) :
    e.checkAlone r o clock = [.ended (({ e with clock } : Engine Work).concluded r o)] :=
  checks_run_check r o { e with clock }

theorem checkAlone_grantScope {v : Value} {scope : Scope} (h : Scope.ofValue v = .ok scope)
    (r : Request) (o : Outcome) (clock : Clock) (e : Engine Work) :
    (e.manage (.grantScope v)).2.checkAlone r o clock =
      [.ended ((({ e with clock } : Engine Work).grantScope scope).2.concluded r o)] := by
  rw [manage_grantScope h, checkAlone_eq]
  rfl

/--
When a scope has been granted, a check of any of its permissions that has neither a temporary nor a
limited grant is approved by the standing grant, subject to confirmation, and so is one of a
permission of another scope whose name is covered by that of a permission of the scope.  A check of
any other permission, or of one that was granted before, comes to what it would have come to, at
every reading of the clock, in every context and with every confirmation.
-/
theorem grantScope_decides {v : Value} {scope : Scope} (hscope : Scope.ofValue v = .ok scope)
    (e : Engine Work) (r : Request) (p : Permission) (o : Outcome) (clock : Clock)
    (hp : e.Registered r p) (ho : e.MayConfirm o) :
    let e' := (e.manage (.grantScope v)).2
    (∀ now next later last, clock.read = (.ok now, next) -> next.read = (.ok later, last) ->
      ¬ e.grants.Active r.permission now -> ¬ e.grants.HasUses r.permission ->
      p.scope = scope ∨ e.ScopeCovers scope r.permission ->
      e'.checkAlone r o clock = [.ended (.ok ((Finding.ofStanding p o).decision r later))]) ∧
      ((∀ now, clock.read.1 = .ok now -> Ungranted r.permission now e.grants ->
          p.scope ≠ scope ∧ ¬ e.ScopeCovers scope r.permission) ->
        e'.checkAlone r o clock = e.checkAlone r o clock) := by
  intro e'
  constructor
  · intro now next later last hread hlater hinactive hspent hreach
    have hcovers : e.ScopeCovers scope r.permission := by
      cases hreach with
      | inl hin => exact ⟨p, hp.1, hin, .inl hp.2⟩
      | inr hcovers => exact hcovers
    have hdecided : (({ e with clock } : Engine Work).grantScope scope).2.concluded r o =
        .ok ((Finding.ofStanding p o).decision r later) :=
      concluded_of_scopeCovers hp ho hread hlater hinactive hspent hcovers
    rw [checkAlone_grantScope hscope, hdecided]
  · intro hfree
    have hsame : (({ e with clock } : Engine Work).grantScope scope).2.concluded r o =
        ({ e with clock } : Engine Work).concluded r o :=
      concluded_of_not_scopeCovers ho fun now hread hungranted => (hfree now hread hungranted).2
    rw [checkAlone_grantScope hscope, hsame, checkAlone_eq]

/-! ## A gateway and its calls -/

/-- A tool with a name that is above that of a permission of the network, and mail beside it. -/
def gatewayEngine : Engine Unit :=
  { settings := { unhandledConfirmation := .allow }
    catalog := Catalog.ofList
      [ { name := "api", scope := .tool, risk := .low },
        { name := "api.call", scope := .network, risk := .medium },
        { name := "mail.send", scope := .custom, risk := .low } ]
    clock := stillClock }

/-- The gateway has one tool. -/
theorem scopeCovers_gatewayEngine {name : String} :
    gatewayEngine.ScopeCovers .tool name ↔ Pattern.GrantCovers "api" name := by
  have htools : ∀ q ∈ gatewayEngine.catalog.permissions, q.scope = .tool -> q.name = "api" := by
    decide +kernel
  have hsome : ∃ q ∈ gatewayEngine.catalog.permissions, q.scope = .tool := by decide +kernel
  constructor
  · rintro ⟨q, hq, hin, hcovers⟩
    rwa [htools q hq hin] at hcovers
  · intro hcovers
    obtain ⟨q, hq, hin⟩ := hsome
    rw [← htools q hq hin] at hcovers
    exact ⟨q, hq, hin, hcovers⟩

/-- The tools are granted: the tool is approved, and a check of mail comes to the same as before. -/
theorem grantScope_decides_tools :
    let e := gatewayEngine
    let e' := (e.manage (.grantScope (.str "tool"))).2
    let tool : Request := { permission := "api" }
    let mail : Request := { permission := "mail.send" }
    let approval : Decision := (Finding.ofOutcome .approved).decision tool stillClock.now
    Scope.ofValue (.str "tool") = .ok .tool ∧
      e'.checkAlone tool .approved stillClock = [.ended (.ok approval)] ∧
      e'.checkAlone mail .approved stillClock = e.checkAlone mail .approved stillClock := by
  intro e e' tool mail approval
  have hscope : Scope.ofValue (.str "tool") = .ok .tool := rfl
  have hconfirm : e.MayConfirm .approved := fun _ => rfl
  have htool : e.Registered tool { name := "api", scope := .tool, risk := .low } :=
    ⟨by decide +kernel, rfl⟩
  have hmail : e.Registered mail { name := "mail.send", scope := .custom, risk := .low } :=
    ⟨by decide +kernel, rfl⟩
  have hread : stillClock.read = (.ok stillClock.now, stillClock) := rfl
  obtain ⟨happroved, -⟩ := grantScope_decides hscope e tool _ .approved stillClock htool hconfirm
  obtain ⟨-, hsame⟩ := grantScope_decides hscope e mail _ .approved stillClock hmail hconfirm
  refine ⟨hscope, happroved _ _ _ _ hread hread ?_ ?_ (.inl rfl), ?_⟩
  · rintro ⟨expiry, hmem, -⟩
    cases hmem
  · rintro ⟨uses, hmem, -⟩
    cases hmem
  · refine hsame fun now _ _ => ⟨by decide, ?_⟩
    rw [scopeCovers_gatewayEngine, ← Pattern.grantCovers_iff, Bool.not_eq_true]
    cbv

/--
The permission of the network is denied by default; with the tools it is granted, although it is
none.
-/
theorem grantScope_leaves_scope :
    let e := gatewayEngine
    let e' := (e.manage (.grantScope (.str "tool"))).2
    let call : Request := { permission := "api.call" }
    let network : Permission := { name := "api.call", scope := .network, risk := .medium }
    let sources (checks : List Check) : List (Option Source) :=
      checks.map fun c => c.decision?.map Decision.source
    e.Registered call network ∧ network.scope ≠ .tool ∧ e.MayConfirm .approved ∧
      sources (e.checkAlone call .approved stillClock) = [some .default] ∧
      sources (e'.checkAlone call .approved stillClock) = [some .grant] := by
  intro e e' call network sources
  have hscope : Scope.ofValue (.str "tool") = .ok .tool := rfl
  have hconfirm : e.MayConfirm .approved := fun _ => rfl
  have hcall : e.Registered call network := ⟨by decide +kernel, rfl⟩
  have hread : e.clock.read = (.ok stillClock.now, stillClock) := rfl
  have hcovers : e.ScopeCovers .tool call.permission := by
    rw [scopeCovers_gatewayEngine, ← Pattern.grantCovers_iff]
    cbv
  have hgranted := concluded_of_scopeCovers hcall hconfirm hread hread
    (by rintro ⟨expiry, hmem, -⟩; cases hmem) (by rintro ⟨uses, hmem, -⟩; cases hmem) hcovers
  refine ⟨hcall, by decide, hconfirm, by decide +kernel, ?_⟩
  rw [checkAlone_grantScope hscope]
  exact congrArg (fun d => sources [.ended d]) hgranted

end Engine

end Clearance
