import Clearance.Proofs.Engine.Alike
import Clearance.Proofs.Engine.Completion

/-!
# Configurations carry decisions over

An engine that takes over the configuration of another one has its catalog, in the same order, and
its policy, and keeps everything else.  What a check comes to depends on these two, on the grants,
on the clock and on what comes of a confirmation, so the two engines decide alike where they have
the last three in common.
-/

namespace Clearance

namespace Catalog

theorem ext_permissions {c c' : Catalog} (h : c.permissions = c'.permissions) : c = c' := by
  obtain ⟨permissions, hnodup⟩ := c
  obtain ⟨permissions', hnodup'⟩ := c'
  cases h
  rfl

theorem putPermission_of_not_mem {p : Permission} {ps : List Permission}
    (h : p.name ∉ ps.map Permission.name) : putPermission p ps = ps ++ [p] := by
  induction ps with
  | nil => rfl
  | cons q rest ih =>
      rw [List.map_cons, List.mem_cons, not_or] at h
      rw [putPermission, if_neg (Ne.symm h.1), ih h.2, List.cons_append]

/-- Permissions of new names come in at the end. -/
theorem permissions_registered {ps : List Permission} {c : Catalog}
    (h : ((c.permissions ++ ps).map Permission.name).Nodup) :
    (ps.foldl (fun c p => c.register p) c).permissions = c.permissions ++ ps := by
  induction ps generalizing c with
  | nil => exact (List.append_nil _).symm
  | cons p rest ih =>
      have hfresh : p.name ∉ c.permissions.map Permission.name := by
        rw [List.map_append, List.map_cons] at h
        exact fun hmem => (List.nodup_append.1 h).2.2 _ hmem _ List.mem_cons_self rfl
      have hregister : (c.register p).permissions = c.permissions ++ [p] :=
        putPermission_of_not_mem hfresh
      have hsplit : c.permissions ++ p :: rest = (c.register p).permissions ++ rest := by
        rw [hregister, List.append_assoc, List.singleton_append]
      rw [List.foldl_cons, hsplit]
      exact ih (hsplit ▸ h)

/-- A catalog is that of its permissions. -/
theorem ofList_permissions (c : Catalog) : ofList c.permissions = c :=
  ext_permissions (permissions_registered (c := empty) c.nodup_names)

end Catalog

namespace Engine

open Confirmation (Outcome)

variable {Work Work' : Type}

theorem takeOver_config (e : Engine Work) (f : Engine Work') :
    f.takeOver e.config = { f with catalog := e.catalog, policy := e.policy } := by
  simp only [takeOver, config, Option.map_some, Option.getD_some, Catalog.replace_eq_ofList,
    Catalog.ofList_permissions]

/-! ## Checks alone -/

/-- What may come of a confirmation: anything, or what is decided if there is nobody to ask. -/
def MayConfirm (o : Outcome) (e : Engine Work) : Prop :=
  e.handler? = none -> Outcome.ofUnhandled e.settings.unhandledConfirmation = o

/-- What a check comes to, by the parts of an engine that it depends on. -/
def comesTo (catalog : Catalog) (policy : Policy) (grants : Grants) (clock : Clock) (r : Request)
    (o : Outcome) : Except ClockFault Decision :=
  match catalog.get? r.permission with
  | none => (({ clock } : Engine Unit).conclude r (Finding.unknown r.permission)).1
  | some p =>
      match clock.read with
      | (.error fault, clock) => (({ clock } : Engine Unit).fail r fault.message).1
      | (.ok now, clock) =>
          match (lookup p policy r now grants).1 with
          | .error fault => (({ clock } : Engine Unit).fail r fault.message).1
          | .ok found => (({ clock } : Engine Unit).conclude r (found.settle fun _ => o)).1

/-- What a check that is made alone comes to: it is started, and finished if it waits. -/
def concluded (r : Request) (o : Outcome) (e : Engine Work) : Except ClockFault Decision :=
  match e.start r with
  | (.ended x, _) => x
  | (.waiting p, e) => (e.finish p o).1

theorem checks_run_check (r : Request) (o : Outcome) (e : Engine Work) :
    (Traffic.run [.start r, .finish 0 o] { engine := e }).checks = [.ended (e.concluded r o)] := by
  simp only [Traffic.run, List.foldl_cons, List.foldl_nil, Traffic.step, concluded]
  rcases e.start r with ⟨x | p, e₁⟩ <;> rfl

theorem concluded_eq_comesTo (r : Request) {o : Outcome} {e : Engine Work}
    (h : e.MayConfirm o) :
    e.concluded r o = comesTo e.catalog e.policy e.grants e.clock r o := by
  have hbare (e' : Engine Work) : e'.clock = ({ clock := e'.clock } : Engine Unit).clock := rfl
  have hconclude (f : Finding) (e' : Engine Work) :
      (e'.conclude r f).1 = (({ clock := e'.clock } : Engine Unit).conclude r f).1 :=
    conclude_of_clock_eq (hbare e') r f
  have hfail (message : String) (e' : Engine Work) :
      (e'.fail r message).1 = (({ clock := e'.clock } : Engine Unit).fail r message).1 :=
    (stamp_of_clock_eq (hbare e') r _).1
  simp only [concluded, comesTo, start, now]
  cases e.catalog.get? r.permission with
  | none => exact hconclude _ e
  | some p =>
      rcases e.clock.read with ⟨fault | t, clock⟩
      · exact hfail _ { e with clock }
      · dsimp only
        rcases lookup p e.policy r t e.grants with ⟨fault | (f | i), grants⟩
        · exact hfail _ { e with grants, clock }
        · exact hconclude f { e with grants, clock }
        · dsimp only
          cases hhandler : e.handler? with
          | some handler =>
              exact hconclude _ { e with handler? := some handler, grants, clock }
          | none =>
              rw [h hhandler]
              exact hconclude _ { e with handler? := none, grants, clock }

/--
An engine that takes over what another one exports has the same permissions in the same order and
the same policy, and keeps the rest of its own; any check comes to the same on both, with the same
grants, clock and outcome of a confirmation; and taking it over once more changes nothing.
-/
theorem export_transfers_decisions (e : Engine Work) (f : Engine Work') :
    let f' := f.takeOver e.config
    (e.manage .export).1 = .ok (.config e.config) ∧
      (∀ v, Config.ofValue v = .ok e.config -> f.manage (.importData v) = (.ok .nothing, f')) ∧
      (∀ text, Config.ofText text = .ok e.config ->
        f.manage (.importText text) = (.ok .nothing, f')) ∧
      (f'.manage .listPermissions).1 = (e.manage .listPermissions).1 ∧
      (f'.manage .getPolicy).1 = (e.manage .getPolicy).1 ∧
      f' = { f with catalog := e.catalog, policy := e.policy } ∧
      (∀ r o grants clock, e.MayConfirm o -> f.MayConfirm o ->
        (Traffic.run [.start r, .finish 0 o] { engine := { f' with grants, clock } }).checks =
          (Traffic.run [.start r, .finish 0 o] { engine := { e with grants, clock } }).checks) ∧
      f'.takeOver e.config = f' := by
  intro f'
  have htaken : f' = { f with catalog := e.catalog, policy := e.policy } := takeOver_config e f
  have hagain : f'.takeOver e.config = f' := by
    rw [takeOver_config e f', htaken]
  refine ⟨rfl, ?_, ?_, ?_, ?_, htaken, ?_, hagain⟩
  · intro v hv
    simp only [manage, hv]
    rfl
  · intro text htext
    simp only [manage, htext]
    rfl
  · rw [htaken]
    rfl
  · rw [htaken]
    rfl
  · intro r o grants clock he hf
    rw [htaken, checks_run_check, checks_run_check]
    have hleft := concluded_eq_comesTo r
      (e := { f with catalog := e.catalog, policy := e.policy, grants, clock }) (o := o) hf
    have hright := concluded_eq_comesTo r (e := { e with grants, clock }) (o := o) he
    rw [hleft, hright]

/--
A new engine without a handler takes over the refunds that another one has to confirm, and refuses
one that is granted, as the other does when it is refused for the same reason.
-/
theorem export_transfers_decisions_refund :
    let e : Engine Unit := refundEngine .silent
    let f : Engine Unit :=
      make {} {} [{ refundPermission with risk := .low }] none .absent stillClock
    let f' := f.takeOver e.config
    let o := Outcome.refused Confirmation.noHandlerReason
    let check : List (Event Unit) := [.start refund, .finish 0 o]
    e.MayConfirm o ∧ f.MayConfirm o ∧ f'.catalog.permissions = [refundPermission] ∧
      (Traffic.run check { engine := { f' with grants := e.grants } }).checks =
        (Traffic.run check { engine := e }).checks ∧
      (Traffic.run check { engine := { f' with grants := e.grants } }).checks.map
        (fun c => c.decision?.map Decision.source) = [some .confirmation] := by
  intro e f f' o check
  have he : e.MayConfirm o := fun h => nomatch h
  have hf : f.MayConfirm o := fun _ => rfl
  obtain ⟨-, -, -, -, -, -, hsame, -⟩ := export_transfers_decisions e f
  refine ⟨he, hf, by decide +kernel, hsame refund o e.grants e.clock he hf, by decide +kernel⟩

end Engine

end Clearance
