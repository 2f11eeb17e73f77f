import Clearance.Proofs.Catalog.Registration
import Clearance.Proofs.Engine.Check
import Clearance.Proofs.Engine.Management

/-!
# Management is done in full or not at all

An operation that fails leaves an engine as it was, but that the clock may have been read.  The
parts that are in a configuration are replaced by an import that does not fail, and no others.
-/

namespace Clearance.Engine

variable {Work : Type}

/-! ## Operations that fail -/

theorem orSame_of_error {e : Engine Work} {r : Except Failure (Answer × Engine Work)}
    {f : Failure} (h : (e.orSame r).1 = .error f) : (e.orSame r).2 = e := by
  cases r with
  | error g => rfl
  | ok done => cases h

theorem grantUntil_of_error {name : String} {x : Expiry} {e : Engine Work} {f : Failure}
    (h : (e.grantUntil name x).1 = .error f) :
    (e.grantUntil name x).2 = { e with clock := e.clock.read.2 } := by
  revert h
  unfold grantUntil now
  rcases e.clock.read with ⟨fault | t, clock⟩
  · intro _
    rfl
  · exact orSame_of_error

/-- Whether an operation reads the clock before anything else that may fail. -/
def Management.readsClock : Management Work -> Bool
  | .grantUntil _ _ => true
  | _ => false

theorem manage_of_error {m : Management Work} {e : Engine Work} {f : Failure}
    (h : (e.manage m).1 = .error f) :
    (e.manage m).2 = { e with clock := if m.readsClock then e.clock.read.2 else e.clock } := by
  cases m with
  | grantUntil name x => exact grantUntil_of_error h
  | advance micros => exact orSame_of_error h
  | grantScope scope => exact orSame_of_error h
  | listByRisk risk => exact orSame_of_error h
  | listByScope scope => exact orSame_of_error h
  | setPolicy policy => exact orSame_of_error h
  | importData config => exact orSame_of_error h
  | importText text => exact orSame_of_error h
  | audit wanted => exact orSame_of_error h
  | report wanted => exact orSame_of_error h
  | sink => rfl
  | unregister name? => cases name? <;> cases h
  | _ => cases h

/-! ## Imports -/

/-- An engine has become another one by taking over the parts of a configuration. -/
structure TakenOver (c : Config) (e e' : Engine Work) : Prop where
  catalog : ∀ ps, c.permissions = some ps -> e'.catalog.Keyed ps
  catalog_kept : c.permissions = none -> e'.catalog = e.catalog
  policy : ∀ p, c.policy = some p -> e'.policy = p
  policy_kept : c.policy = none -> e'.policy = e.policy
  rest : e' = { e with catalog := e'.catalog, policy := e'.policy }

theorem takenOver_takeOver (c : Config) (e : Engine Work) : TakenOver c e (e.takeOver c) where
  catalog := by
    intro ps hps
    simp only [takeOver, hps, Option.map_some, Option.getD_some, Catalog.replace_eq_ofList]
    exact Catalog.keyed_ofList ps
  catalog_kept := by
    intro hnone
    simp only [takeOver, hnone, Option.map_none, Option.getD_none]
  policy := by
    intro p hp
    simp only [takeOver, hp, Option.getD_some]
  policy_kept := by
    intro hnone
    simp only [takeOver, hnone, Option.getD_none]
  rest := rfl

theorem importData_of_ok {v : Value} {e : Engine Work} {a : Answer}
    (h : (e.manage (.importData v)).1 = .ok a) :
    ∃ c, Config.ofValue v = .ok c ∧ (e.manage (.importData v)).2 = e.takeOver c := by
  simp only [manage] at h ⊢
  cases hv : Config.ofValue v with
  | error fault =>
      rw [hv] at h
      cases h
  | ok c => exact ⟨c, rfl, rfl⟩

theorem importText_of_ok {text : String} {e : Engine Work} {a : Answer}
    (h : (e.manage (.importText text)).1 = .ok a) :
    ∃ c, Config.ofText text = .ok c ∧ (e.manage (.importText text)).2 = e.takeOver c := by
  simp only [manage] at h ⊢
  cases htext : Config.ofText text with
  | error fault =>
      rw [htext] at h
      cases fault <;> cases h
  | ok c => exact ⟨c, rfl, rfl⟩

theorem exists_error_of_toBool {r : Result} (h : r.toBool = false) : ∃ f, r = .error f := by
  cases r with
  | error f => exact ⟨f, rfl⟩
  | ok a => cases h

theorem exists_ok_of_toBool {r : Result} (h : r.toBool = true) : ∃ a, r = .ok a := by
  cases r with
  | error f => cases h
  | ok a => exact ⟨a, rfl⟩

end Clearance.Engine
