import Clearance.Engine.Management

/-!
# Sessions

Operations on an engine one after another, with the confirmations that they need.  A handler may
itself operate on the engine before it answers.  Of several checks that are made at once, all are
looked up first, in order; then the handlers are asked, in order; then the checks are finished.
-/

namespace Clearance.Engine

open Confirmation (Handler Outcome Reply Sight)

inductive Operation where
  | check (permission context : Value)
  /-- A check whose denial is a fault. -/
  | require (permission context : Value)
  | gather (checks : List (Value × Value))
  /-- A check that is cancelled when it waits for a handler that never answers. -/
  | checkCancel (permission context : Value)
  /-- A check of a request; if it is interrupted, it is cancelled as above. -/
  | evaluate (r : Request) (interrupted : Bool := false)
  | manage (m : Management (List Operation))
  /-- An operation whose arguments make no sense. -/
  | misgiven (f : Failure)

instance : Inhabited Operation := ⟨.manage .sink⟩

/-- An engine, and what was seen while it was operated on. -/
structure Session where
  engine : Engine (List Operation)
  /-- What handlers were asked. -/
  sights : List Sight := []
  /-- What the operations of handlers gave. -/
  nested : List Result := []

namespace Session

/-- Operates on the engine of a session. -/
def on {α : Type} (f : Engine (List Operation) -> α × Engine (List Operation)) (s : Session) :
    α × Session :=
  let (a, engine) := f s.engine
  (a, { s with engine })

/-- Asks the handler about a check that waits; the work of the handler is done on the way. -/
def consult (work : List Operation -> Session -> Session) (p : Pending) (s : Session) :
    Option Reply × Session :=
  match s.engine.handler? with
  | none => (some (.failed "'NoneType' object is not callable"), s)
  | some h =>
      let (reply?, sights) := h.ask p.inquiry
      let s := { s with sights := s.sights ++ sights }
      (reply?, (h.work?.map fun ops => work ops s).getD s)

/-- A decision as a result. -/
def settled (r : Except ClockFault Decision) : Except Failure Decision :=
  r.mapError Failure.clock

/-- Finishes a check with a reply. -/
def finish (p : Pending) (reply : Reply) (s : Session) : Except Failure Decision × Session :=
  let (r, s) := s.on fun e => e.finish p (Outcome.ofReply reply)
  (settled r, s)

/-- Cancels a check that waits. -/
def cancel (p : Pending) (s : Session) : Except Failure Decision × Session :=
  match s.on fun e => e.cancel p with
  | (.ok _, s) => (.error .cancelled, s)
  | (.error f, s) => (.error (.clock f), s)

/-- How far one of several checks has come. -/
inductive Stage where
  | settled (r : Except Failure Decision)
  | waiting (p : Pending)
  | replied (p : Pending) (reply? : Option Reply)

def stageOf (r : Except Value.NoText Progress) : Stage :=
  match r with
  | .ok (.ended r) => .settled (settled r)
  | .ok (.waiting p) => .waiting p
  | .error f => .settled (.error (.noText f))

/-- Starts a check of any data. -/
def startCheck (permission context : Value) (s : Session) : Stage × Session :=
  let (r, s) := s.on fun e => e.startRaw permission context
  (stageOf r, s)

/-- Starts several checks in order. -/
def startAll : List (Value × Value) -> Session -> List Stage × Session
  | [], s => ([], s)
  | (permission, context) :: rest, s =>
      let (stage, s) := s.startCheck permission context
      let (stages, s) := startAll rest s
      (stage :: stages, s)

/-- Goes through the stages of several checks in order. -/
def sweep (f : Stage -> Session -> Stage × Session) : List Stage -> Session -> List Stage × Session
  | [], s => ([], s)
  | stage :: rest, s =>
      let (stage, s) := f stage s
      let (rest, s) := sweep f rest s
      (stage :: rest, s)

/-- Asks for a check that waits. -/
def asked (work : List Operation -> Session -> Session) : Stage -> Session -> Stage × Session
  | .waiting p, s =>
      let (reply?, s) := s.consult work p
      (.replied p reply?, s)
  | stage, s => (stage, s)

/-- Finishes a check that has a reply. -/
def answered : Stage -> Session -> Stage × Session
  | .replied p (some reply), s =>
      let (r, s) := s.finish p reply
      (.settled r, s)
  | stage, s => (stage, s)

/-- Finishes a check whose time has run out. -/
def expired : Stage -> Session -> Stage × Session
  | .replied p none, s =>
      let (r, s) := s.finish p .timedOut
      (.settled r, s)
  | stage, s => (stage, s)

/-- Cancels a check whose handler never answers. -/
def abandoned : Stage -> Session -> Stage × Session
  | .replied p none, s =>
      let (r, s) := s.cancel p
      (.settled r, s)
  | stage, s => (stage, s)

def Stage.result : Stage -> Except Failure Decision
  | .settled r => r
  | _ => .error .cancelled

/-- Several checks at once. -/
def together (work : List Operation -> Session -> Session)
    (silence : Stage -> Session -> Stage × Session) (stages : List Stage) (s : Session) :
    List (Except Failure Decision) × Session :=
  let (stages, s) := sweep (asked work) stages s
  let (stages, s) := sweep answered stages s
  let (stages, s) := sweep silence stages s
  (stages.map Stage.result, s)

/-- One check alone. -/
def alone (work : List Operation -> Session -> Session)
    (silence : Stage -> Session -> Stage × Session) (stage : Stage) (s : Session) :
    Except Failure Decision × Session :=
  let (stage, s) := asked work stage s
  let (stage, s) := answered stage s
  let (stage, s) := silence stage s
  (stage.result, s)

/-- The fault of a denial. -/
def denial (permission : Value) (d : Decision) : Fault :=
  let f := Fault.of (.permissionDenied d.permission (d.reason.getD "") d.context)
  { f with context := Table.set "permission" permission f.context }

def required (permission : Value) (r : Except Failure Decision) : Except Failure Decision := do
  let d <- r
  if d.granted then return d else .error (.fault (denial permission d))

/-- Operates on the engine; handlers that go on asking each other are left alone in the end. -/
def run : Nat -> Operation -> Session -> Result × Session
  | 0, _, s => (.ok .nothing, s)
  | depth + 1, op, s =>
      let work (ops : List Operation) (s : Session) : Session :=
        ops.foldl
          (fun s op =>
            let (r, s) := run depth op s
            { s with nested := s.nested ++ [r] })
          s
      let single (r : Except Failure Decision × Session) : Result × Session :=
        (r.1.map Answer.decision, r.2)
      match op with
      | .check permission context =>
          let (stage, s) := s.startCheck permission context
          single (alone work expired stage s)
      | .require permission context =>
          let (stage, s) := s.startCheck permission context
          let (r, s) := alone work expired stage s
          single (required permission r, s)
      | .evaluate r interrupted =>
          let (p, s) := s.on fun e => e.start r
          single (alone work (if interrupted then abandoned else expired) (stageOf (.ok p)) s)
      | .checkCancel permission context =>
          let (stage, s) := s.startCheck permission context
          single (alone work abandoned stage s)
      | .gather checks =>
          let (stages, s) := startAll checks s
          let (rs, s) := together work expired stages s
          (.ok (.several rs), s)
      | .manage m => s.on fun e => e.manage m
      | .misgiven f => (.error f, s)

/-- How deep handlers may go on asking. -/
def depthLimit : Nat := 64

/-- Operates on the engine, forgetting what was seen before. -/
def perform (op : Operation) (s : Session) : Result × Session :=
  run depthLimit op { engine := s.engine }

end Session

end Clearance.Engine
