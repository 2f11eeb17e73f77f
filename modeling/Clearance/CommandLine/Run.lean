import Clearance.CommandLine.Display
import Clearance.CommandLine.Invocation
import Clearance.Engine.Session
import Clearance.Report.Console
import Clearance.Report.Document

/-!
# Running commands

A command works on the files of a directory.  It exits with zero when all is well, with one for a
denial or a configuration that is not valid, and with two when it could not start.
-/

namespace Clearance.CommandLine

open Engine (Operation Session)
open Trail (Content Files TrailFault)

/-- What a command finds when it starts. -/
structure Workspace where
  files : Files := []
  /-- The directory of all files, as it is told. -/
  root : String
  /-- The parts of the path from there to the directory in which the command runs. -/
  directory : List String := []
  clock : Engine.Clock
  /-- The lines that are typed. -/
  input : List String := []
  /-- When a report is made, as it is told. -/
  reportTime : String

/-- A fault that stops a command without a word. -/
inductive Crash where
  | noDirectory
  | isDirectory
  /-- A file with text is wanted. -/
  | noText
  | content (f : Yaml.ContentFault)
  | trail (f : TrailFault)

/-- How a command ends. -/
inductive Ending where
  | usage
  | help
  /-- Something is printed to the console. -/
  | printed (exit : Nat) (items : List Printed)
  /-- Text is written to the output. -/
  | written (exit : Nat) (text : String)
  | failed (exit : Nat) (f : Fault) (asJson debug : Bool)
  | crashed (c : Crash)

namespace Workspace

/-! ## Paths -/

/-- The parts of a path below the root; none if it leads out of it. -/
def partsOf : List String -> List String -> Option (List String)
  | done, [] => some done
  | done, part :: rest =>
      if part = "" || part = "." then partsOf done rest
      else if part = ".." then if done.isEmpty then none else partsOf done.dropLast rest
      else partsOf (done ++ [part]) rest

/-- A path that begins with a slash, without the root in front. -/
def belowRoot? (root path : String) : Option String :=
  if (root ++ "/").isPrefixOf path then
    some (String.ofList (path.toList.drop (root.length + 1)))
  else none

/-- The name that a path has below the root. -/
def resolve? (path : String) (w : Workspace) : Option String := do
  let parts <-
    if "/".isPrefixOf path then partsOf [] ((<- belowRoot? w.root path).splitOn "/")
    else partsOf w.directory (path.splitOn "/")
  return "/".intercalate parts

/-- A name with the directory in front. -/
def full (w : Workspace) (name : String) : String :=
  if name.isEmpty then w.root else w.root ++ "/" ++ name

/-- The name of a file or directory that must be there. -/
def existing (path : String) (w : Workspace) : Except Usage String :=
  match w.resolve? path with
  | none => .error {}
  | some name =>
      if (Table.get? name w.files).isSome || w.files.isDirectory name then .ok name else .error {}

def existing? (path? : Option String) (w : Workspace) : Except Usage (Option String) :=
  match path? with
  | none => .ok none
  | some path => (w.existing path).map some

/-! ## Reading -/

/-- Ends a command early. -/
abbrev Attempt := Except Ending

def orUsage {α : Type} (r : Except Usage α) : Attempt α :=
  r.mapError fun _ => .usage

/-- The text in a file. -/
def textOf (name : String) (fail : Fault -> Ending) (w : Workspace) : Attempt String :=
  match Table.get? name w.files with
  | some (.foreign s) => .ok s
  | some (.database d) => if d.table?.isNone then .ok "" else .error (.crashed .noText)
  | none => .error (fail (Fault.of (.configLoad (w.full name) "Is a directory")))

/-- The configuration in a file. -/
def configOf (name : String) (fail : Fault -> Ending) (w : Workspace) : Attempt Config := do
  let text <- w.textOf name fail
  (Config.ofText text (w.full name)).mapError fun e =>
    match e with
    | .fault f => fail f
    | .content f => .crashed (.content f)

/-- A new engine, with the configuration in a file if there is one. -/
def engineOf (name? : Option String) (unhandled : Unhandled) (sink : Trail.Sink)
    (fail : Fault -> Ending) (w : Workspace) : Attempt (Engine (List Operation)) := do
  let settings : Settings := { unhandledConfirmation := unhandled }
  let engine := Engine.make settings {} [] none sink w.clock
  match name? with
  | none => return engine
  | some name => return engine.takeOver (<- w.configOf name fail)

/-! ## Commands -/

/-- The engine that a check is put to. -/
def checkEngine (o : CheckOptions) (config? : Option String) (sink : Trail.Sink)
    (fail : Fault -> Ending) (w : Workspace) : Attempt (Engine (List Operation)) := do
  let unhandled : Unhandled := if o.allowUnconfirmed then .allow else .deny
  let engine <- w.engineOf config? unhandled sink fail
  let engine := { engine with grants := o.grants.foldl (fun g name => g.grant name) engine.grants }
  if o.interactive then
    return { engine with
      handler? := some (.console false { lines := w.input, isTerminal := true }) }
  else return engine

/-- How a check ends that came to a result. -/
def checkEnding (o : CheckOptions) (r : Engine.Result) : Ending :=
  match r with
  | .ok (.decision d) =>
      let exit := if d.granted then 0 else 1
      if o.asJson then
        match Schema.decisionDocument false d with
        | .ok j => .written exit (Json.render (Json.plainStyle (.indented 2)) j ++ "\n")
        | .error _ => .crashed .noText
      else .printed exit (decisionItems d)
  | _ => .crashed .noText

/-- The files with a trail in one of them. -/
def keepTrail (name? : Option String) (sink : Trail.Sink) (w : Workspace) : Workspace :=
  match name?, sink with
  | some name, .trail d => { w with files := Table.set name (.database d) w.files }
  | _, _ => w

/-- Opens the trail of a check. -/
def openTrail (name? : Option String) (fail : Fault -> Ending) (w : Workspace) :
    Attempt (Trail.Sink × Workspace) :=
  match name? with
  | none => .ok (.absent, w)
  | some name => do
      let files <- (w.files.openTrail name (w.full name)).mapError fail
      match Table.get? name files with
      | some (.database d) => return (.trail d, { w with files })
      | _ => return (.absent, { w with files })

/-- The name of a file that need not be there; one outside the root cannot be opened. -/
def place (w : Workspace) (path : String) : String :=
  (w.resolve? path).getD path

/-- The parts of a check that are settled before anything is opened. -/
def checkInputs (o : CheckOptions) (w : Workspace) : Attempt (Option String × Context) := do
  let config? <- orUsage (w.existing? o.config?)
  return (config?, <- orUsage (contextOf o.context))

/-- Runs a check, with what handlers were asked. -/
def runCheck (o : CheckOptions) (w : Workspace) :
    Ending × List Confirmation.Sight × Workspace :=
  let fail (f : Fault) : Ending := .failed 2 f o.asJson o.debug
  match w.checkInputs o with
  | .error e => (e, [], w)
  | .ok (config?, context) =>
      let trail? := o.trail?.map w.place
      match w.openTrail trail? fail with
      | .error e => (e, [], w)
      | .ok (sink, w) =>
          match w.checkEngine o config? sink fail with
          | .error e => (e, [], w)
          | .ok engine =>
              let (r, s) :=
                Session.perform (.check (.str o.permission) context.toValue) { engine }
              (checkEnding o r, s.sights, w.keepTrail trail? s.engine.sink)

def runList (config? : Option String) (risk? : Option RiskLevel) (scope? : Option Scope)
    (w : Workspace) : Attempt Ending := do
  let config? <- orUsage (w.existing? config?)
  let engine <- w.engineOf config? .deny .absent fun f => .failed 2 f false false
  let ps := engine.catalog.permissions.filter fun p =>
    risk?.all (· = p.risk) && scope?.all (· = p.scope)
  return .printed 0 (permissionItems ps)

/-- The last part of a path. -/
def lastPart (path : String) : String :=
  (path.splitOn "/").getLast?.getD ""

def runValidate (path : String) (w : Workspace) : Attempt Ending := do
  let name <- orUsage (w.existing path)
  let config <- w.configOf name fun f => .failed 1 f false false
  return .printed 0 (configItems (lastPart (w.full name)) config)

def runExport (config? output? : Option String) (w : Workspace) : Attempt (Ending × Workspace) := do
  let config? <- orUsage (w.existing? config?)
  let engine <- w.engineOf config? .deny .absent fun f => .failed 2 f false false
  let text := engine.config.toText
  match output? with
  | none => return (.written 0 text, w)
  | some path =>
      let name := w.place path
      if w.files.isDirectory name then .error (.crashed .isDirectory)
      else if !w.files.canHold name then .error (.crashed .noDirectory)
      else
        return (.printed 0 (writtenItems (w.full name)),
          { w with files := Table.set name (Content.ofText text) w.files })

/-- Opens a trail that must be there. -/
def openExisting (path : String) (w : Workspace) : Attempt (String × Workspace) := do
  let name <- orUsage (w.existing path)
  let files <- (w.files.openTrail name (w.full name)).mapError fun f => .failed 2 f false false
  return (name, { w with files })

/-- The wanted entries of a trail. -/
def trailEntries (o : AuditOptions) (name : String) (w : Workspace) : Attempt (List AuditEntry) :=
  let wanted : Trail.Selection :=
    { filter? := o.filter?, permission? := o.permission?, limit? := some o.limit }
  (w.files.list name wanted).mapError fun e =>
    match e with
    | .storage f => .failed 2 f false false
    | e => .crashed (.trail e)

/-- The report on a trail. -/
def auditEnding (o : AuditOptions) (name : String) (w : Workspace) : Attempt Ending := do
  let entries <- w.trailEntries o name
  if o.asJson then
    match Report.text w.reportTime entries with
    | .ok text => return .written 0 (text ++ "\n")
    | .error _ => .error (.crashed .noText)
  else return .printed 0 (Report.printed o.verbose entries).1

/-- The ending that an attempt comes to. -/
def settle (r : Attempt Ending) : Ending :=
  match r with
  | .ok e | .error e => e

def runAudit (o : AuditOptions) (w : Workspace) : Ending × Workspace :=
  match w.openExisting o.path with
  | .error e => (e, w)
  | .ok (name, w) => (settle (w.auditEnding o name), w)

/-- Runs what a command line asks for. -/
def run (i : Invocation) (w : Workspace) : Ending × Workspace :=
  match i with
  | .help => (.help, w)
  | .version => (.printed 0 versionItems, w)
  | .check o =>
      let (e, _, w) := w.runCheck o
      (e, w)
  | .list config? risk? scope? => (settle (w.runList config? risk? scope?), w)
  | .validate path => (settle (w.runValidate path), w)
  | .export config? output? =>
      match w.runExport config? output? with
      | .ok x => x
      | .error e => (e, w)
  | .audit o => w.runAudit o

/-- Runs a command line. -/
def runWords (words : List String) (w : Workspace) : Ending × Workspace :=
  match Invocation.ofWords words with
  | .ok i => w.run i
  | .error _ => (.usage, w)

end Workspace

/-! ## Output -/

/-- What can be seen of the end of a command. -/
structure Output where
  exit : Nat
  console : List Printed := []
  text : String := ""

/-- The output of an ending; the trace is shown where it is wanted. -/
def Ending.output (trace : String) : Ending -> Output
  | .usage => { exit := 2 }
  | .help => { exit := 0 }
  | .printed exit items => { exit, console := items }
  | .written exit text => { exit, text }
  | .failed exit f asJson debug =>
      match asJson, faultText f with
      | true, .ok text => { exit, text := text ++ "\n" }
      | _, _ => { exit, console := faultItems (if debug then some trace else none) f }
  | .crashed _ => { exit := 1 }

end Clearance.CommandLine
