import Clearance.Engine.Management

/-!
# What management leaves alone

Of all that is done to an engine between checks, only two operations touch the limited grants, only
two the log, which they cut, and only four the clock, which one of them reads.
-/

namespace Clearance

namespace Grants

@[simp] theorem limited_grant (name : String) (g : Grants) :
    (g.grant name).limited = g.limited := rfl

theorem limited_grantAll (names : List String) (g : Grants) :
    (names.foldl (fun g name => g.grant name) g).limited = g.limited := by
  induction names generalizing g with
  | nil => rfl
  | cons name rest ih => rw [List.foldl_cons, ih, limited_grant]

end Grants

namespace Engine

variable {Work : Type}

theorem grantUntil_frame (name : String) (x : Expiry) (e : Engine Work) :
    (e.grantUntil name x).2.grants.limited = e.grants.limited ∧
      (e.grantUntil name x).2.log = e.log ∧ (e.grantUntil name x).2.clock = e.clock.read.2 := by
  unfold grantUntil now
  rcases e.clock.read with ⟨fault | t, clock⟩
  · exact ⟨rfl, rfl, rfl⟩
  · dsimp only
    cases x.resolve clock.zone t <;> exact ⟨rfl, rfl, rfl⟩

/-- What management does to the limited grants, to the log and to the clock. -/
theorem manage_frame (m : Management Work) (e : Engine Work) :
    (e.manage m).2.grants.limited =
      (match m with
      | .grantUses name uses => e.grants.limited.set name uses
      | .revoke name => e.grants.limited.erase name
      | _ => e.grants.limited) ∧
    (e.manage m).2.log =
      (match m with
      | .trimAudit keep => e.log.trim keep
      | .clearAudit => {}
      | _ => e.log) ∧
    (e.manage m).2.clock =
      match m with
      | .advance micros => (e.clock.advance micros).toOption.getD e.clock
      | .setClock t => { e.clock with now := t }
      | .disturbClock message readings => e.clock.disturb message readings
      | .grantUntil _ _ => e.clock.read.2
      | _ => e.clock := by
  cases m with
  | advance micros =>
      simp only [manage]
      cases e.clock.advance micros <;> exact ⟨rfl, rfl, rfl⟩
  | grantUntil name x => exact grantUntil_frame name x e
  | grantScope scope =>
      simp only [manage]
      cases Scope.ofValue scope with
      | error f => exact ⟨rfl, rfl, rfl⟩
      | ok scope => exact ⟨Grants.limited_grantAll _ _, rfl, rfl⟩
  | unregister name? => cases name? <;> exact ⟨rfl, rfl, rfl⟩
  | listByRisk risk =>
      simp only [manage]
      cases RiskLevel.ofValue risk <;> exact ⟨rfl, rfl, rfl⟩
  | listByScope scope =>
      simp only [manage]
      cases Scope.ofValue scope <;> exact ⟨rfl, rfl, rfl⟩
  | setPolicy policy =>
      simp only [manage]
      cases policyOf policy <;> exact ⟨rfl, rfl, rfl⟩
  | importData config =>
      simp only [manage]
      cases Config.ofValue config <;> exact ⟨rfl, rfl, rfl⟩
  | importText text =>
      simp only [manage]
      cases Config.ofText text <;> exact ⟨rfl, rfl, rfl⟩
  | audit wanted =>
      simp only [manage]
      cases e.entries wanted <;> exact ⟨rfl, rfl, rfl⟩
  | report wanted =>
      simp only [manage]
      cases e.entries wanted <;> exact ⟨rfl, rfl, rfl⟩
  | _ => exact ⟨rfl, rfl, rfl⟩

/-- Management adds nothing to the log. -/
theorem entries_manage (m : Management Work) (e : Engine Work) :
    (e.manage m).2.log.entries.Sublist e.log.entries := by
  rw [(manage_frame m e).2.1]
  cases m with
  | trimAudit keep => exact List.drop_sublist _ _
  | clearAudit => exact List.nil_sublist _
  | _ => exact List.Sublist.refl _

end Engine

end Clearance
