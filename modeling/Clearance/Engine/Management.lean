import Clearance.Config
import Clearance.Engine.State
import Clearance.Trail.Store

/-!
# Management

What is done to an engine between checks: its catalog, policy, grants, handler, log and clock are
read and changed.  An operation that fails changes nothing but the count of clock readings.
-/

namespace Clearance.Engine

open Confirmation (Handler)

/-- When a temporary grant is to run out. -/
inductive Expiry where
  | instant (t : Timestamp)
  | after (micros : Int)
  deriving Inhabited

inductive Management (Work : Type) where
  | advance (micros : Int)
  | setClock (t : Timestamp)
  | disturbClock (message : String) (readings : Nat)
  | setHandler (h? : Option (Handler Work))
  | grant (name : String)
  | revoke (name : String)
  | grantUntil (name : String) (expiry : Expiry)
  | grantUses (name : String) (uses : Int)
  | grantScope (scope : Value)
  | listGranted
  | register (p : Permission)
  | unregister (name? : Option String)
  | get (name? : Option String)
  | requiresConfirmation (name? : Option String)
  | listPermissions
  | listByRisk (risk : Value)
  | listByScope (scope : Value)
  | clear
  | setPolicy (policy : Value)
  | getPolicy
  | importData (config : Value)
  | importText (text : String)
  | export
  | audit (wanted : Value)
  | report (wanted : Value)
  | trimAudit (keep : Int)
  | clearAudit
  | sink

/-- Why an operation fails. -/
inductive Failure where
  | clock (f : ClockFault)
  | noText (f : Value.NoText)
  | range (f : Timestamp.RangeFault)
  | duration (f : Time.DurationFault)
  | instant (text : String) (f : Time.IsoFault)
  | mapping (f : MappingFault)
  | invalid (e : Schema.Invalid)
  | noMember (f : NoMember)
  | fault (f : Fault)
  | content (f : Yaml.ContentFault)
  | unreadable (f : Trail.Unreadable)
  | cancelled
  /-- An argument is of the wrong kind. -/
  | kind

/-- What an operation gives. -/
inductive Answer where
  | nothing
  | flag (b : Bool)
  | count (n : Nat)
  | names (ns : List String)
  | instant (t : Timestamp)
  | permission (p? : Option Permission)
  | policy (p : Policy)
  | config (c : Config)
  | decision (d : Decision)
  | entries (es : List AuditEntry)
  | report (es : List AuditEntry)
  | several (rs : List (Except Failure Decision))

abbrev Result := Except Failure Answer

variable {Work : Type}

/-- The instant at which a grant runs out, on a clock that shows a time. -/
def Expiry.resolve (zone : Int) (now : Timestamp) (x : Expiry) :
    Except Timestamp.RangeFault Timestamp := do
  let t <- match x with
    | .instant t => pure t
    | .after micros => now.shift micros
  t.localize zone

/-- The policy that data stands for. -/
def policyOf (v : Value) : Except Failure Policy := do
  let v <- (mappingOf v).mapError Failure.mapping
  (Schema.titled "PermissionPolicy" (Schema.policy v)).mapError Failure.invalid

/-- Takes over the parts of a configuration that are there. -/
def takeOver (c : Config) (e : Engine Work) : Engine Work :=
  { e with
    catalog := (c.permissions.map fun ps => e.catalog.replace ps).getD e.catalog
    policy := c.policy.getD e.policy }

/-- Everything that can be configured. -/
def config (e : Engine Work) : Config :=
  { permissions := some e.catalog.permissions, policy := some e.policy }

/-- The entries of the log that are wanted. -/
def entries (wanted : Value) (e : Engine Work) : Except Failure (List AuditEntry) :=
  match wanted with
  | .null => .ok e.log.entries
  | v => ((AuditFilter.ofValue v).map fun f => e.log.select (some f)).mapError Failure.noMember

/-- What a sink holds. -/
def sinkAnswer (e : Engine Work) : Result :=
  match e.sink with
  | .absent => .ok .nothing
  | .refusing => .ok (.names [])
  | .memory permissions => .ok (.names permissions)
  | .trail d =>
      ((d.table?.getD []).mapM Trail.Row.entry).map Answer.entries |>.mapError Failure.unreadable
  | .faulty fails handed => .ok (.names ((Trail.Sink.kept fails handed).map AuditEntry.permission))

def permissionNames (ps : List Permission) : Answer :=
  .names (ps.map Permission.name)

/-- Keeps the engine as it was if there is no new one. -/
def orSame (e : Engine Work) (r : Except Failure (Answer × Engine Work)) : Result × Engine Work :=
  match r with
  | .ok (a, e) => (.ok a, e)
  | .error f => (.error f, e)

/-- Grants until an instant; the clock is read in any case. -/
def grantUntil (name : String) (x : Expiry) (e : Engine Work) : Result × Engine Work :=
  match e.now with
  | (.error f, e) => (.error (.clock f), e)
  | (.ok now, e) =>
      orSame e do
        let t <- (x.resolve e.clock.zone now).mapError Failure.range
        return (.instant t, { e with grants := e.grants.grantUntil name t })

/-- Grants every permission of a scope. -/
def grantScope (scope : Scope) (e : Engine Work) : List String × Engine Work :=
  let names := (e.catalog.withScope scope).map Permission.name
  (names, { e with grants := names.foldl (fun g name => g.grant name) e.grants })

def manage (m : Management Work) (e : Engine Work) : Result × Engine Work :=
  let done (e : Engine Work) : Result × Engine Work := (.ok .nothing, e)
  let told (a : Answer) : Result × Engine Work := (.ok a, e)
  match m with
  | .advance micros =>
      orSame e do
        let clock <- (e.clock.advance micros).mapError Failure.range
        return (.instant clock.now, { e with clock })
  | .setClock t => done { e with clock := { e.clock with now := t } }
  | .disturbClock message readings => done { e with clock := e.clock.disturb message readings }
  | .setHandler h? => done { e with handler? := h? }
  | .grant name => done { e with grants := e.grants.grant name }
  | .revoke name => done { e with grants := e.grants.revoke name }
  | .grantUntil name x => e.grantUntil name x
  | .grantUses name uses => done { e with grants := e.grants.grantUses name uses }
  | .grantScope scope =>
      orSame e do
        let scope <- (Scope.ofValue scope).mapError Failure.noMember
        let (names, e) := e.grantScope scope
        return (.names names, e)
  | .listGranted => told (.names e.grants.standing)
  | .register p => done { e with catalog := e.catalog.register p }
  | .unregister none => told (.flag false)
  | .unregister (some name) =>
      (.ok (.flag (e.catalog.contains name)), { e with catalog := e.catalog.unregister name })
  | .get name? => told (.permission (name?.bind e.catalog.get?))
  | .requiresConfirmation name? =>
      told (.flag ((name?.bind e.catalog.get?).any Permission.requiresConfirmation))
  | .listPermissions => told (permissionNames e.catalog.permissions)
  | .listByRisk risk =>
      orSame e do
        let risk <- (RiskLevel.ofValue risk).mapError Failure.noMember
        return (permissionNames (e.catalog.withRisk risk), e)
  | .listByScope scope =>
      orSame e do
        let scope <- (Scope.ofValue scope).mapError Failure.noMember
        return (permissionNames (e.catalog.withScope scope), e)
  | .clear => done { e with catalog := .empty }
  | .setPolicy v => orSame e do return (.nothing, { e with policy := <- policyOf v })
  | .getPolicy => told (.policy e.policy)
  | .importData v =>
      orSame e do return (.nothing, e.takeOver (<- (Config.ofValue v).mapError Failure.fault))
  | .importText text =>
      orSame e do
        let c <- (Config.ofText text).mapError fun f =>
          match f with
          | .fault f => Failure.fault f
          | .content f => Failure.content f
        return (.nothing, e.takeOver c)
  | .export => told (.config e.config)
  | .audit wanted => orSame e do return (.entries (<- e.entries wanted), e)
  | .report wanted => orSame e do return (.report (<- e.entries wanted), e)
  | .trimAudit keep => (.ok (.count (e.log.excess keep)), { e with log := e.log.trim keep })
  | .clearAudit => done { e with log := {} }
  | .sink => (e.sinkAnswer, e)

end Clearance.Engine
