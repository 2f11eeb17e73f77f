import Clearance.CommandLine.Arguments
import Clearance.Decision
import Clearance.Table
import Clearance.Text.Numeral

/-!
# Invocations

What a command line asks for.  A request for help or for the version comes before everything but
words that cannot be understood.
-/

namespace Clearance.CommandLine

/-- A check on the command line. -/
structure CheckOptions where
  permission : String
  config? : Option String := none
  /-- The pairs that make the context. -/
  context : List String := []
  grants : List String := []
  trail? : Option String := none
  interactive : Bool := false
  allowUnconfirmed : Bool := false
  asJson : Bool := false
  debug : Bool := false
  deriving Repr, Inhabited

/-- A report on a trail. -/
structure AuditOptions where
  path : String
  filter? : Option AuditFilter := none
  permission? : Option String := none
  limit : Int := 100
  asJson : Bool := false
  verbose : Bool := false
  deriving Repr, Inhabited

inductive Invocation where
  | help
  | version
  | check (o : CheckOptions)
  | list (config? : Option String) (risk? : Option RiskLevel) (scope? : Option Scope)
  | validate (path : String)
  | export (config? output? : Option String)
  | audit (o : AuditOptions)
  deriving Repr, Inhabited

/-! ## Options -/

def helpSwitch : Switch := { name := "--help" }
def configSwitch : Switch := { name := "--config", letter? := some 'c', hasValue := true }

def mainSwitches : List Switch :=
  [ { name := "--version", letter? := some 'V' }, { name := "--verbose", letter? := some 'v' },
    helpSwitch ]

def checkSwitches : List Switch :=
  [ configSwitch, { name := "--context", letter? := some 'x', hasValue := true },
    { name := "--grant", letter? := some 'g', hasValue := true },
    { name := "--audit-db", hasValue := true }, { name := "--interactive", letter? := some 'i' },
    { name := "--allow-unconfirmed" }, { name := "--json" }, { name := "--debug" }, helpSwitch ]

def listSwitches : List Switch :=
  [ configSwitch, { name := "--risk", hasValue := true }, { name := "--scope", hasValue := true },
    helpSwitch ]

def validateSwitches : List Switch := [helpSwitch]

def exportSwitches : List Switch :=
  [configSwitch, { name := "--out", letter? := some 'o', hasValue := true }, helpSwitch]

def auditSwitches : List Switch :=
  [ { name := "--filter", letter? := some 'f', hasValue := true },
    { name := "--permission", letter? := some 'p', hasValue := true },
    { name := "--limit", letter? := some 'n', hasValue := true }, { name := "--json" },
    { name := "--verbose" }, helpSwitch ]

/-! ## Reading -/

/-- The one argument of a command. -/
def oneArgument (a : Arguments) : Except Usage String :=
  match a.plain with
  | [word] => .ok word
  | _ => .error {}

def noArgument (a : Arguments) : Except Usage Unit :=
  if a.plain.isEmpty then .ok () else .error {}

/-- The value of an option that must be one of several. -/
def choice? {α : Type} (name : String) (ofName? : String -> Option α) (a : Arguments) :
    Except Usage (Option α) :=
  match a.value? name with
  | none => .ok none
  | some word =>
      match ofName? word with
      | some x => .ok (some x)
      | none => .error {}

def checkOptions (a : Arguments) : Except Usage CheckOptions := do
  return {
    permission := <- oneArgument a
    config? := a.value? "--config"
    context := a.values "--context"
    grants := a.values "--grant"
    trail? := a.value? "--audit-db"
    interactive := a.has "--interactive"
    allowUnconfirmed := a.has "--allow-unconfirmed"
    asJson := a.has "--json"
    debug := a.has "--debug" }

def auditOptions (a : Arguments) : Except Usage AuditOptions := do
  return {
    path := <- oneArgument a
    filter? := <- choice? "--filter" AuditFilter.ofName? a
    permission? := a.value? "--permission"
    limit := (<- choice? "--limit" (fun s => Text.numeral? s.toList) a).getD 100
    asJson := a.has "--json"
    verbose := a.has "--verbose" }

/-- Reads the words of a command, unless they ask for help. -/
def command (switches : List Switch) (words : List String)
    (read : Arguments -> Except Usage Invocation) : Except Usage Invocation := do
  let a <- Arguments.ofWords switches words
  if a.has "--help" then return .help else read a

/-- What a command with its words asks for. -/
def Invocation.ofCommand (name : String) (words : List String) : Except Usage Invocation :=
  match name with
  | "check" => command checkSwitches words fun a => return .check (<- checkOptions a)
  | "list" =>
      command listSwitches words fun a => do
        let risk? <- choice? "--risk" RiskLevel.ofName? a
        let scope? <- choice? "--scope" Scope.ofName? a
        noArgument a
        return .list (a.value? "--config") risk? scope?
  | "validate" => command validateSwitches words fun a => return .validate (<- oneArgument a)
  | "export" =>
      command exportSwitches words fun a => do
        noArgument a
        return .export (a.value? "--config") (a.value? "--out")
  | "audit" => command auditSwitches words fun a => return .audit (<- auditOptions a)
  | _ => .error {}

/-- What a command line asks for. -/
def Invocation.ofWords (words : List String) : Except Usage Invocation := do
  let a <- Arguments.beforeCommand mainSwitches words
  match a.options.find? fun (n, _) => n == "--help" || n == "--version" with
  | some (name, _) => return if name = "--help" then .help else .version
  | none =>
      match a.plain with
      | [] => .error {}
      | name :: words => Invocation.ofCommand name words

/-- The paths that an invocation names. -/
def Invocation.paths : Invocation -> List String
  | .help | .version => []
  | .check o => o.config?.toList ++ o.trail?.toList
  | .list config? _ _ => config?.toList
  | .validate path => [path]
  | .export config? output? => config?.toList ++ output?.toList
  | .audit o => [o.path]

/-! ## Contexts -/

/-- A pair, split at its first equals sign; the key must not be empty. -/
def pairOf (word : String) : Except Usage (String × String) :=
  match splitWord word with
  | (key, some value) => if key.isEmpty then .error {} else .ok (key, value)
  | (_, none) => .error {}

/-- The context that pairs make; of two pairs with one key the later counts. -/
def contextOf (pairs : List String) : Except Usage Context :=
  pairs.foldlM (fun c word => do
    let (key, value) <- pairOf word
    return Table.set key (.str value) c) []

end Clearance.CommandLine
