/-!
# Log levels

How much is logged: a level by name, and where and in what form messages go.
-/

namespace Clearance

inductive LogLevel where
  | debug | info | warning | error | critical
  deriving DecidableEq, Repr, Inhabited

namespace LogLevel

def all : List LogLevel := [.debug, .info, .warning, .error, .critical]

def name : LogLevel -> String
  | .debug => "DEBUG"
  | .info => "INFO"
  | .warning => "WARNING"
  | .error => "ERROR"
  | .critical => "CRITICAL"

def number : LogLevel -> Nat
  | .debug => 10
  | .info => 20
  | .warning => 30
  | .error => 40
  | .critical => 50

/-- The upper-case letter of ASCII that a letter has; the dotless `i` has one, too. -/
def capital (c : Char) : Char :=
  if c == '\u0131' then 'I' else c.toUpper

def ofName? (s : String) : Option LogLevel :=
  let wanted := String.ofList (s.toList.map capital)
  all.find? fun level => level.name == wanted

/--
The level that is in force: the one that was asked for, else the one of the environment, else
warnings.  A name that is none stands for warnings as well.
-/
def resolve (asked? environment? : Option String) : LogLevel :=
  let name :=
    match asked? with
    | some s => if s.isEmpty then environment?.getD "WARNING" else s
    | none => environment?.getD "WARNING"
  (ofName? name).getD .warning

end LogLevel

/-- Where log messages go. -/
inductive LogChannel where
  | console | stream
  deriving DecidableEq, Repr, Inhabited

/-- The form of a message; a console shows time and level by itself. -/
def LogChannel.format : LogChannel -> String
  | .console => "%(name)s: %(message)s"
  | .stream => "%(asctime)s [%(levelname)s] %(name)s: %(message)s"

/-- A log that is set up. -/
structure LogSetup where
  level : LogLevel
  channels : List LogChannel
  /-- Whether messages also go to the logs around this one. -/
  propagates : Bool
  deriving Repr, Inhabited

/-- Sets a log up with one channel, whatever it had before. -/
def LogSetup.make (level : LogLevel) (rich : Bool) : LogSetup :=
  { level, channels := [if rich then .console else .stream], propagates := false }

end Clearance
