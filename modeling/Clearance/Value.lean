import Clearance.Permission
import Clearance.Text.Quoted
import Clearance.Time.Timestamp

/-!
# Values

What a request's context may hold: plain data, moments in time, and objects of the program that
makes the request.  Every value has a literal form; all but the objects that refuse it have a
text.
-/

namespace Clearance

open Time (Date)

inductive Value where
  | null
  | bool (b : Bool)
  | int (n : Int)
  | real (x : Binary64)
  | str (s : String)
  | bytes (b : List UInt8)
  | list (items : List Value)
  | tuple (items : List Value)
  | set (items : List Value)
  | dict (entries : List (Value × Value))
  | timestamp (t : Timestamp)
  | date (d : Date)
  | permission (p : Permission)
  /-- An object whose text cannot be had: asking for it fails with the message. -/
  | mute (message : String)
  deriving Inhabited

namespace Value

/-- The number that a Boolean, a whole number or a double stands for as a key. -/
def numeric? : Value -> Option (Int ⊕ Binary64)
  | .bool b => some (.inl (if b then 1 else 0))
  | .int n => some (.inl n)
  | .real x =>
      match x.toInt? with
      | some n => some (.inl n)
      | none => some (.inr x)
  | _ => none

mutual

/-- Whether a value may be a key: collections that can change may not. -/
def isHashable : Value -> Bool
  | .list _ | .set _ | .dict _ => false
  | .tuple items => areHashable items
  | _ => true

def areHashable : List Value -> Bool
  | [] => true
  | v :: rest => isHashable v && areHashable rest

end

/-- Whether two numbers are the same key. -/
def sameNumber (x y : Value) : Bool :=
  match x.numeric?, y.numeric? with
  | some (.inl m), some (.inl n) => m == n
  | some (.inr a), some (.inr b) => a.same b
  | _, _ => false

mutual

/--
Whether two keys are the same.  Numbers are compared as numbers, so a Boolean is the same key as
zero or one and a whole double the same as the whole number.
-/
def sameKey : Value -> Value -> Bool
  | .null, .null => true
  | .str s, .str t => s == t
  | .bytes a, .bytes b => a == b
  | .timestamp a, .timestamp b => a.offset.isSome == b.offset.isSome && a.instant == b.instant
  | .date a, .date b => a == b
  | .permission p, .permission q => p == q
  | .tuple xs, .tuple ys => sameKeys xs ys
  | x, y => sameNumber x y

def sameKeys : List Value -> List Value -> Bool
  | [], [] => true
  | x :: xs, y :: ys => sameKey x y && sameKeys xs ys
  | _, _ => false

end

/--
Puts an entry into a dictionary: a key that is there keeps its place and its form and gets the
new value, any other comes last.
-/
def insertEntry (key value : Value) : List (Value × Value) -> List (Value × Value)
  | [] => [(key, value)]
  | (k, v) :: rest =>
      if sameKey k key then (k, value) :: rest else (k, v) :: insertEntry key value rest

/-- The dictionary with the given entries, put in from the first to the last. -/
def dictOf (entries : List (Value × Value)) : Value :=
  .dict (entries.foldl (fun acc (k, v) => insertEntry k v acc) [])

/-- Looks a text key up. -/
def lookup (key : String) : List (Value × Value) -> Option Value
  | [] => none
  | (.str k, v) :: rest => if k = key then some v else lookup key rest
  | _ :: rest => lookup key rest

/-- Whether a value counts as true: nothing, zeros and whatever is empty do not. -/
def isTruthy : Value -> Bool
  | .null => false
  | .bool b => b
  | .int n => n != 0
  | .real x => !x.isZero
  | .str s => !s.isEmpty
  | .bytes b => !b.isEmpty
  | .list items | .tuple items | .set items => !items.isEmpty
  | .dict entries => !entries.isEmpty
  | .timestamp _ | .date _ | .permission _ | .mute _ => true

/-- The name of the kind of value. -/
def kindName : Value -> String
  | .null => "NoneType"
  | .bool _ => "bool"
  | .int _ => "int"
  | .real _ => "float"
  | .str _ => "str"
  | .bytes _ => "bytes"
  | .list _ => "list"
  | .tuple _ => "tuple"
  | .set _ => "set"
  | .dict _ => "dict"
  | .timestamp _ => "datetime"
  | .date _ => "date"
  | .permission _ => "Permission"
  | .mute _ => "Raises"

/-- The name of the kind of value with that of the place it is kept in, if it has one. -/
def fullKindName : Value -> String
  | .timestamp _ => "datetime.datetime"
  | .date _ => "datetime.date"
  | v => v.kindName

end Value

/-! ## Literals -/

namespace Literal

def flag (b : Bool) : String :=
  if b then "True" else "False"

def joined (items : List String) : String :=
  ", ".intercalate items

/-- A length of time by its days and seconds, of which only the days may be negative. -/
def duration (micros : Int) : String :=
  let days := micros.fdiv Time.microsPerDay
  let rest := (micros - days * Time.microsPerDay).toNat
  let seconds := rest / Time.microsPerSecond
  let micro := rest % Time.microsPerSecond
  let part (name : String) (n : Int) : List String :=
    if n = 0 then [] else [name ++ "=" ++ Decimal.intText n]
  let parts := part "days" days ++ part "seconds" seconds ++ part "microseconds" micro
  "datetime.timedelta(" ++ (if parts.isEmpty then "0" else joined parts) ++ ")"

def zone (offset : Int) : String :=
  if offset = 0 then "datetime.timezone.utc"
  else "datetime.timezone(" ++ duration offset ++ ")"

/-- Seconds and microseconds are left out from the end as long as they are zero. -/
def timestamp (t : Timestamp) : String :=
  let d := t.date
  let c := t.clock
  let tail :=
    if c.micro != 0 then [c.second, c.micro] else if c.second != 0 then [c.second] else []
  let numbers := [d.year, d.month, d.day, c.hour, c.minute] ++ tail
  let zonePart := (t.offset.map fun o => ["tzinfo=" ++ zone o]).getD []
  "datetime.datetime(" ++ joined (numbers.map Decimal.natText ++ zonePart) ++ ")"

def date (d : Date) : String :=
  "datetime.date(" ++ joined ([d.year, d.month, d.day].map Decimal.natText) ++ ")"

def optional (s : Option String) : String :=
  (s.map Text.quoted).getD "None"

/-- The fields of a permission, each with its literal. -/
def permissionFields (p : Permission) : List String :=
  [ "name=" ++ Text.quoted p.name,
    "scope=<PermissionScope." ++ p.scope.name.toUpper ++ ": " ++ Text.quoted p.scope.name ++ ">",
    "risk=<RiskLevel." ++ p.risk.name.toUpper ++ ": " ++ Text.quoted p.risk.name ++ ">",
    "requires_confirmation=" ++ flag p.requiresConfirmation,
    "description=" ++ optional p.description,
    "parent=" ++ optional p.parent ]

end Literal

namespace Value

/-- Items between brackets. -/
def bracketed (left right : String) (items : List String) : String :=
  left ++ Literal.joined items ++ right

mutual

/-- The literal of a value: how it would be written in source text. -/
def literal : Value -> String
  | .null => "None"
  | .bool b => Literal.flag b
  | .int n => Decimal.intText n
  | .real x => Decimal.general.text x
  | .str s => Text.quoted s
  | .bytes b => Text.quotedBytes b
  | .list items => bracketed "[" "]" (literals items)
  | .tuple [item] => "(" ++ literal item ++ ",)"
  | .tuple items => bracketed "(" ")" (literals items)
  | .set [] => "set()"
  | .set items => bracketed "\x7b" "\x7d" (literals items)
  | .dict entries => bracketed "\x7b" "\x7d" (entryLiterals entries)
  | .timestamp t => Literal.timestamp t
  | .date d => Literal.date d
  | .permission p => bracketed "Permission(" ")" (Literal.permissionFields p)
  | .mute _ => "<raises>"

def literals : List Value -> List String
  | [] => []
  | v :: rest => literal v :: literals rest

def entryLiterals : List (Value × Value) -> List String
  | [] => []
  | (k, v) :: rest => (literal k ++ ": " ++ literal v) :: entryLiterals rest

end

/-- Why a value has no text. -/
structure NoText where
  message : String
  deriving DecidableEq, Repr

/-- The text of a value: that of a text is itself, that of most others the literal. -/
def text : Value -> Except NoText String
  | .str s => .ok s
  | .timestamp t => .ok t.spacedText
  | .date d => .ok (Timestamp.dateText d)
  | .permission p => .ok (" ".intercalate (Literal.permissionFields p))
  | .mute message => .error { message }
  | v => .ok v.literal

end Value

end Clearance
